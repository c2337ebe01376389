import Mathlib.Data.List.Dedup
import PublicFunds.Proofs.Register.Arrangement

/-!
# Sections of disbursements that are accepted

A section of disbursements brings totals along, and it is accepted only if these say what its
records come to.  They need not say it in the same way: a total of zero may be given or left out.
What is exported afterwards has a total for each procurement that something was paid out for, and no
other.

* `DisbursementSection.Balanced`: totals that say what the records come to.
* `DisbursementSection.recompute_isOk_iff`: exactly these are accepted.
* `DisbursementSection.arranged`, `DisbursementSection.Rearranges`: what is exported, and what it
  does not depend on.
* `Disbursement.load_isOk_iff`, `Disbursement.Keeps.extract_of_load`: acceptance and export.
-/

namespace PublicFunds

namespace Disbursement

/-- Disbursements can be added up exactly if no sum leaves the range of amounts. -/
theorem sums_isOk_iff {l : List Disbursement} (positive : ∀ d ∈ l, d.amount ≠ .zero) :
    (∃ t, sums l = .ok t) ↔ ∀ p, paidFor p l < Amount.size := by
  constructor
  · rintro ⟨t, summed⟩ p
    rw [← ((sums_eq_ok_iff positive).1 summed).sum]
    exact t.paid_lt p
  · intro room
    refine exists_addTo fun p => ?_
    rw [Totals.paid_empty, Nat.zero_add]
    exact room p

end Disbursement

namespace DisbursementSection

/-! ## Totals that say what the records come to -/

/-- What a section says was paid out for a procurement, zero if it says nothing. -/
def claimed (s : DisbursementSection) (p : RecordId) : Nat :=
  (s.totals.find? fun t => t.procurement = p).elim 0 fun t => t.total.toNat

/-- The totals of a section name no procurement twice, and they say what its records come to, added
up exactly, which is always an amount. -/
structure Balanced (s : DisbursementSection) : Prop where
  once : (s.totals.map (·.procurement)).Nodup
  agrees : ∀ p, s.claimed p = Disbursement.paidFor p s.records
  bounded : ∀ p, Disbursement.paidFor p s.records < Amount.size

/-- Totals are put into a map only if no procurement is named twice. -/
theorem collect_isOk_iff {l : List DisbursedTotal} {seen : Totals} :
    (∃ t, collect seen l = .ok t) ↔
      (l.map (·.procurement)).Nodup ∧ ∀ e ∈ l, seen.get? e.procurement = none := by
  induction l generalizing seen with
  | nil => simp [collect]
  | cons e l ih =>
    rw [collect]
    cases there : seen.get? e.procurement with
    | some a =>
      have contained : seen.contains e.procurement = true := by rw [OrderedMap.contains, there]; rfl
      simp [contained, there]
    | none =>
      have absent : seen.contains e.procurement = false := by rw [OrderedMap.contains, there]; rfl
      simp only [absent, Bool.false_eq_true, if_false, ih, List.map_cons, List.nodup_cons,
        List.forall_mem_cons, there, true_and]
      constructor
      · rintro ⟨distinct, free⟩
        have new : ∀ f ∈ l, f.procurement ≠ e.procurement := by
          intro f hf same
          have impossible := free f hf
          rw [same, OrderedMap.get?_insert_self] at impossible
          cases impossible
        refine ⟨⟨fun again => ?_, distinct⟩, fun f hf => ?_⟩
        · obtain ⟨f, hf, same⟩ := List.mem_map.1 again
          exact new f hf same
        · rw [← OrderedMap.get?_insert_of_ne seen (new f hf) e.total]
          exact free f hf
      · rintro ⟨⟨new, distinct⟩, free⟩
        refine ⟨distinct, fun f hf => ?_⟩
        rw [OrderedMap.get?_insert_of_ne _ fun same => new (List.mem_map.2 ⟨f, hf, same⟩)]
        exact free f hf

/-- A total that was put into a map is what the section says. -/
theorem paid_of_collect {s : DisbursementSection} {exported : Totals}
    (collected : collect .empty s.totals = .ok exported) (p : RecordId) :
    exported.paid p = s.claimed p := by
  obtain ⟨once, -⟩ := collect_isOk_iff.1 ⟨_, collected⟩
  rw [collect_eq_ok once fun _ _ => rfl] at collected
  cases collected
  have keys : ((s.totals.map fun e => (e.procurement, e.total)).map Prod.fst).Nodup := by
    rwa [List.map_map]
  have entry : ∀ a, (OrderedMap.ofList (s.totals.map fun e => (e.procurement, e.total))).get? p =
      some a ↔ ∃ e ∈ s.totals, e.procurement = p ∧ e.total = a := by
    intro a
    rw [OrderedMap.get?_ofList keys, List.mem_map]
    simp only [Prod.mk.injEq]
  show ((OrderedMap.get? (OrderedMap.ofList _) p).getD Amount.zero).toNat = _
  unfold claimed
  cases hfind : s.totals.find? fun t => t.procurement = p with
  | none =>
    have absent : (OrderedMap.ofList (s.totals.map fun e => (e.procurement, e.total))).get? p =
        none := by
      refine Option.eq_none_iff_forall_ne_some.2 fun a found => ?_
      obtain ⟨e, he, same, -⟩ := (entry a).1 found
      exact List.find?_eq_none.1 hfind e he (decide_eq_true same)
    rw [absent]
    rfl
  | some e =>
    have same : e.procurement = p := by simpa using List.find?_some hfind
    rw [(entry e.total).2 ⟨e, List.mem_of_find?_eq_some hfind, same, rfl⟩]
    rfl

/-- Totals are found to agree exactly if they agree for all procurements that are looked at. -/
theorem compareAt_eq_ok_iff {sums exported : Totals} {l : List RecordId} :
    compareAt sums exported l = .ok () ↔ ∀ p ∈ l, sums.paid p = exported.paid p := by
  induction l with
  | nil => simp [compareAt]
  | cons p l ih =>
    rw [compareAt]
    simp only [List.forall_mem_cons]
    split
    · next same => simp only [ih, Totals.paid, same, true_and]
    · next differ =>
      simp only [reduceCtorEq, false_iff, not_and]
      exact fun same => absurd (Amount.ext same) differ

/-- Without a total a map says zero. -/
theorem paid_eq_of_notMem {t : Totals} {p : RecordId} (h : p ∉ t.keys) : t.paid p = 0 := by
  rw [Totals.paid, t.get?_eq_none_iff.2 h]
  rfl

/-- **A section is accepted exactly if its totals say what its records come to.** -/
theorem recompute_isOk_iff {s : DisbursementSection}
    (positive : ∀ d ∈ s.records, d.amount ≠ .zero) :
    (∃ t, s.recompute = .ok t) ↔ s.Balanced := by
  constructor
  · rintro ⟨t, recomputed⟩
    obtain ⟨summed, exported, collected, compared⟩ := recompute_eq_ok_iff.1 recomputed
    have exact := (Disbursement.sums_eq_ok_iff positive).1 summed
    refine ⟨(collect_isOk_iff.1 ⟨_, collected⟩).1, fun p => ?_,
      (Disbursement.sums_isOk_iff positive).1 ⟨_, summed⟩⟩
    rw [← paid_of_collect collected, ← exact.sum]
    by_cases known : p ∈ t.keys ++ exported.keys
    · exact (compareAt_eq_ok_iff.1 compared p known).symm
    · -- where neither has a total, both say zero
      obtain ⟨unpaid, unsaid⟩ := not_or.1 (mt List.mem_append.2 known)
      rw [paid_eq_of_notMem unpaid, paid_eq_of_notMem unsaid]
  · rintro ⟨once, agrees, bounded⟩
    obtain ⟨t, summed⟩ := (Disbursement.sums_isOk_iff positive).2 bounded
    obtain ⟨exported, collected⟩ := collect_isOk_iff.2 ⟨once, fun _ _ => OrderedMap.get?_empty _⟩
    have exact := (Disbursement.sums_eq_ok_iff positive).1 summed
    refine ⟨t, recompute_eq_ok_iff.2 ⟨summed, exported, collected, ?_⟩⟩
    refine compareAt_eq_ok_iff.2 fun p _ => ?_
    rw [exact.sum, paid_of_collect collected, agrees]

/-! ## What is exported -/

/-- The totals of some disbursements: one for each procurement that something is paid out for, in
the order of the procurements. -/
def totalsOf (l : List Disbursement) : List DisbursedTotal :=
  (ascendingBy id (l.map (·.procurement)).dedup).map fun p =>
    ⟨p, (Amount.ofNat? (Disbursement.paidFor p l)).getD .zero⟩

/-- The section with its records in the order of their ids, and with the totals that they have. -/
def arranged (s : DisbursementSection) : DisbursementSection :=
  ⟨ascendingBy Record.id s.records, s.count, totalsOf s.records⟩

/-- A section whose records and totals stand in another order. -/
structure Rearranges (s t : DisbursementSection) : Prop where
  records : s.records.Perm t.records
  count : s.count = t.count
  totals : s.totals.Perm t.totals

/-- Totals that are sums, as a list. -/
theorem map_toList_eq_totalsOf {l : List Disbursement} (positive : ∀ d ∈ l, d.amount ≠ .zero)
    {t : Totals} (h : t.AreSums l) :
    (t.toList.map fun e => (⟨e.1, e.2⟩ : DisbursedTotal)) = totalsOf l := by
  have keys : ascendingBy id (l.map (·.procurement)).dedup = t.keys := by
    refine ascendingBy_eq ?_ t.pairwise_keys
    refine (List.perm_ext_iff_of_nodup (List.nodup_dedup _) t.nodup_keys).2 fun p => ?_
    rw [List.mem_dedup, List.mem_map]
    exact (h.mem_keys_iff positive).symm
  rw [totalsOf, keys, OrderedMap.keys, List.map_map]
  refine List.map_congr_left fun e he => ?_
  have paid : Disbursement.paidFor e.1 l = e.2.toNat := by
    rw [← h.sum, Totals.paid, t.get?_eq_some_iff.2 he]
    rfl
  simp only [Function.comp_apply, paid, Amount.ofNat?_toNat, Option.getD_some]

/-- Totals do not depend on the order of disbursements. -/
theorem totalsOf_perm {l m : List Disbursement} (same : l.Perm m) : totalsOf l = totalsOf m := by
  have procurements := (same.map (·.procurement)).dedup
  have once : ((l.map (·.procurement)).dedup.map id).Nodup := by
    rw [List.map_id]
    exact List.nodup_dedup _
  rw [totalsOf, totalsOf, ascendingBy_perm procurements once]
  exact List.map_congr_left fun p _ => by rw [Disbursement.paidFor_perm p same]

namespace Rearranges

variable {s t : DisbursementSection}

theorem toSection (h : s.Rearranges t) : s.toSection.Rearranges t.toSection :=
  ⟨h.records, h.count⟩

/-- A section says the same in whatever order its totals stand. -/
theorem claimed_eq (h : s.Rearranges t) (once : (s.totals.map (·.procurement)).Nodup)
    (p : RecordId) : t.claimed p = s.claimed p := by
  rw [claimed, claimed, find?_perm h.totals once]

theorem balanced (h : s.Rearranges t) (fine : s.Balanced) : t.Balanced where
  once := (h.totals.map _).nodup_iff.1 fine.once
  agrees p := by
    rw [h.claimed_eq fine.once, fine.agrees]
    exact Disbursement.paidFor_perm p h.records
  bounded p := by
    rw [← Disbursement.paidFor_perm p h.records]
    exact fine.bounded p

/-- What becomes of a section does not depend on the order of its records and totals. -/
theorem arranged_eq {format : AddressFormat} (h : s.Rearranges t)
    (fine : s.toSection.WellFormed format) : t.arranged = s.arranged := by
  rw [arranged, arranged, ascendingBy_perm h.records fine.distinct, h.count,
    totalsOf_perm h.records]

end Rearranges

end DisbursementSection

/-! ## Loading -/

namespace Disbursement

variable {format : AddressFormat} {store : Store} {s : DisbursementSection}

/-- The disbursements of a well-formed section pay something. -/
theorem positive_of_wellFormed (h : s.toSection.WellFormed format) :
    ∀ d ∈ s.records, d.amount ≠ .zero :=
  fun d hd => amount_ne_zero (Vetted.of_check (h.checked d hd)).2

/-- **A section of disbursements is accepted** by an unused store exactly if it is well formed and
balanced. -/
theorem load_isOk_iff (unused : register.isEmpty store = .ok true) :
    (∃ batch, load format store s = .ok ((), batch)) ↔
      s.toSection.WellFormed format ∧ s.Balanced := by
  simp only [load_eq_ok_iff, unused, true_and]
  constructor
  · rintro ⟨_, checked, ids, sums, recomputed, -⟩
    have fine : s.toSection.WellFormed format := Section.wellFormed_iff.2 ⟨checked, ids⟩
    exact ⟨fine, (DisbursementSection.recompute_isOk_iff (positive_of_wellFormed fine)).1
      ⟨sums, recomputed⟩⟩
  · rintro ⟨fine, balanced⟩
    obtain ⟨sums, recomputed⟩ :=
      (DisbursementSection.recompute_isOk_iff (positive_of_wellFormed fine)).2 balanced
    obtain ⟨checked, ids⟩ := Section.wellFormed_iff.1 fine
    exact ⟨_, checked, ids, sums, recomputed, rfl⟩

/-- What a store exports that holds exactly a section. -/
theorem Keeps.extract_ofSection {t : Totals}
    (h : Keeps format store.entries (.ofSection s.toSection) t)
    (ids : s.toSection.checkIds = .ok ())
    (within : store.entries.Within (Bytes.reach 8)) (healthy : store.Healthy) :
    Disbursement.extract store = .ok s.arranged := by
  rw [h.extract within healthy, DisbursementSection.map_toList_eq_totalsOf h.positive h.sums,
    DisbursementSection.totalsOf_perm (Register.Contents.values_ofSection ids),
    Register.Contents.values_ofSection_eq ids]
  rfl

/-- A store that a section has been loaded into exports the section in order. -/
theorem Keeps.extract_of_load {c : Register.Contents Disbursement} {t : Totals}
    (h : Keeps format store.entries c t) {batch : Batch}
    (planned : Disbursement.load format store s = .ok ((), batch)) {after : Store}
    (written : after.entries = store.entries.apply batch)
    (within : after.entries.Within (Bytes.reach 8)) (healthy : after.Healthy) :
    Disbursement.extract after = .ok s.arranged := by
  obtain ⟨ids, -, sums, loaded⟩ := h.load planned
  rw [← written] at loaded
  exact loaded.extract_ofSection ids within healthy

end Disbursement

end PublicFunds
