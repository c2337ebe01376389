import PublicFunds.Disbursement.Totals
import PublicFunds.Proofs.OrderedMap

/-!
# Totals that are sums

A total is held in 256 bits, while what was paid out is a sum without a bound.  Totals are sums when
the two agree for every procurement, and this is possible at all only because adding refuses to
leave the range.

No amount is zero, so a procurement has a total exactly if something was paid out for it, and totals
that are sums of the same disbursements are the same totals.  It does not matter whether they were
added up from the beginning or kept up to date.

* `Disbursement.paidFor`: what some disbursements pay out for a procurement.
* `Totals.AreSums`: totals that are the sums of some disbursements.
* `Disbursement.sums_eq_ok_iff`: adding up gives exactly these.
* `Disbursement.size_le_of_sums`: what it means when adding up fails.
* `Totals.AreSums.enter`, `Totals.AreSums.replace`: keeping totals up to date.
* `Totals.AreSums.mem_keys_iff`: the procurements that have a total.
* `Disbursement.compareTotals_cases`: what comes of holding stored totals against sums.
* `Disbursement.compareTotals_self`: totals that are sums agree with them.
* `DisbursementSection.recompute_eq_ok_iff`: the checks that the totals of a section go through.
* `DisbursementSection.recompute_eq_ok`: an export whose totals are sums is accepted.
-/

namespace PublicFunds

namespace Disbursement

/-- What some disbursements pay out for a procurement, as an exact sum. -/
def paidFor (p : RecordId) : List Disbursement → Nat
  | [] => 0
  | d :: rest => (if d.procurement = p then d.amount.toNat else 0) + paidFor p rest

@[simp] theorem paidFor_nil (p : RecordId) : paidFor p [] = 0 := rfl

@[simp] theorem paidFor_cons (p : RecordId) (d : Disbursement) (l : List Disbursement) :
    paidFor p (d :: l) = (if d.procurement = p then d.amount.toNat else 0) + paidFor p l := rfl

@[simp] theorem paidFor_append (p : RecordId) (l m : List Disbursement) :
    paidFor p (l ++ m) = paidFor p l + paidFor p m := by
  induction l with
  | nil => exact (Nat.zero_add _).symm
  | cons d l ih => rw [List.cons_append, paidFor_cons, paidFor_cons, ih, Nat.add_assoc]

/-- Disbursements for other procurements pay nothing. -/
theorem paidFor_eq_zero {p : RecordId} {l : List Disbursement}
    (h : ∀ d ∈ l, d.procurement ≠ p) : paidFor p l = 0 := by
  induction l with
  | nil => rfl
  | cons d l ih =>
    rw [paidFor_cons, if_neg (h d (List.mem_cons_self ..)),
      ih fun e he => h e (List.mem_cons_of_mem _ he)]

/-- A disbursement pays nothing if nothing is paid for its procurement. -/
theorem amount_eq_zero {d : Disbursement} {l : List Disbursement} (hd : d ∈ l)
    (h : paidFor d.procurement l = 0) : d.amount.toNat = 0 := by
  obtain ⟨front, back, rfl⟩ := List.append_of_mem hd
  rw [paidFor_append, paidFor_cons, if_pos rfl] at h
  omega

/-- It does not matter in which order disbursements are paid. -/
theorem paidFor_perm (p : RecordId) {l m : List Disbursement} (h : l.Perm m) :
    paidFor p l = paidFor p m := by
  induction h with
  | nil => rfl
  | cons d _ ih => rw [paidFor_cons, paidFor_cons, ih]
  | swap d e l =>
    simp only [paidFor_cons]
    omega
  | trans _ _ ih ih' => exact ih.trans ih'

end Disbursement

namespace Totals

/-- The total for a procurement, zero if there is none. -/
def paid (t : Totals) (p : RecordId) : Nat := ((t.get? p).getD .zero).toNat

/-- A total is there only if it is not zero. -/
def NoZero (t : Totals) : Prop := ∀ p a, t.get? p = some a → a ≠ .zero

/-- Totals are the sums of some disbursements. -/
structure AreSums (t : Totals) (l : List Disbursement) : Prop where
  noZero : t.NoZero
  sum : ∀ p, t.paid p = Disbursement.paidFor p l

@[simp] theorem paid_empty (p : RecordId) : paid .empty p = 0 := rfl

theorem noZero_empty : NoZero .empty := fun _ _ found => nomatch found

theorem paid_insert (t : Totals) (p q : RecordId) (a : Amount) :
    paid (t.insert q a) p = if q = p then a.toNat else t.paid p := by
  by_cases h : q = p
  · subst h
    rw [paid, OrderedMap.get?_insert_self, if_pos rfl]
    rfl
  · rw [paid, OrderedMap.get?_insert_of_ne _ (Ne.symm h), if_neg h, paid]

theorem NoZero.insert {t : Totals} (h : t.NoZero) (p : RecordId) {a : Amount} (ha : a ≠ .zero) :
    NoZero (t.insert p a) :=
  OrderedMap.forall_get?_insert h ha

/-- Totals without zeros are the same if they say the same. -/
theorem ext {s t : Totals} (hs : s.NoZero) (ht : t.NoZero) (h : ∀ p, s.paid p = t.paid p) :
    s = t := by
  refine OrderedMap.ext_get? fun p => ?_
  have same := h p
  unfold paid at same
  cases hsp : s.get? p with
  | none =>
    cases htp : t.get? p with
    | none => rfl
    | some b =>
      rw [hsp, htp] at same
      exact absurd (Amount.ext same.symm) (ht p b htp)
  | some a =>
    cases htp : t.get? p with
    | none =>
      rw [hsp, htp] at same
      exact absurd (Amount.ext same) (hs p a hsp)
    | some b =>
      rw [hsp, htp] at same
      have one : a = b := Amount.ext same
      rw [one]

/-- The total for a procurement is an amount. -/
theorem paid_lt (t : Totals) (p : RecordId) : t.paid p < Amount.size := Amount.toNat_lt _

end Totals

/-! ## Adding up -/

namespace Disbursement

/-- An amount that is more than another is not zero. -/
theorem ne_zero_of_add {total amount : Amount} {n : Nat} (h : n + amount.toNat = total.toNat)
    (positive : amount ≠ .zero) : total ≠ .zero := by
  rintro rfl
  rw [Amount.toNat_zero] at h
  exact positive (Amount.ext (by rw [Amount.toNat_zero]; omega))

/-- What comes of adding some disbursements to totals. -/
theorem addTo_eq_ok {l : List Disbursement} (positive : ∀ d ∈ l, d.amount ≠ .zero)
    {start result : Totals} (noZero : start.NoZero) (h : addTo start l = .ok result) :
    result.NoZero ∧ ∀ p, result.paid p = start.paid p + paidFor p l := by
  induction l generalizing start with
  | nil =>
    rw [addTo] at h
    cases h
    exact ⟨noZero, fun p => by simp⟩
  | cons d l ih =>
    rw [addTo] at h
    split at h
    · cases h
    · next total htotal =>
      have added : start.paid d.procurement + d.amount.toNat = total.toNat :=
        Amount.add?_eq_some_iff.1 htotal
      have more := ne_zero_of_add added (positive d (List.mem_cons_self ..))
      obtain ⟨noZero', sum⟩ := ih (fun d hd => positive d (List.mem_cons_of_mem _ hd))
        (noZero.insert d.procurement more) h
      refine ⟨noZero', fun p => ?_⟩
      rw [sum, Totals.paid_insert, paidFor_cons]
      by_cases hp : d.procurement = p
      · rw [if_pos hp, if_pos hp, ← added, hp]
        omega
      · rw [if_neg hp, if_neg hp]
        omega

/-- Disbursements can be added if no sum leaves the range of amounts. -/
theorem exists_addTo {l : List Disbursement} {start : Totals}
    (room : ∀ p, start.paid p + paidFor p l < Amount.size) :
    ∃ result, addTo start l = .ok result := by
  induction l generalizing start with
  | nil => exact ⟨start, rfl⟩
  | cons d l ih =>
    have here := room d.procurement
    rw [paidFor_cons, if_pos rfl] at here
    have fits : start.paid d.procurement + d.amount.toNat < Amount.size := by omega
    have added : ((start.get? d.procurement).getD .zero).add? d.amount = some ⟨_, fits⟩ :=
      Amount.add?_eq_some_iff.2 rfl
    rw [addTo, added]
    refine ih fun p => ?_
    have there := room p
    rw [paidFor_cons] at there
    rw [Totals.paid_insert]
    by_cases hp : d.procurement = p
    · subst hp
      rw [if_pos rfl] at there ⊢
      show start.paid d.procurement + d.amount.toNat + paidFor d.procurement l < Amount.size
      omega
    · rw [if_neg hp] at there ⊢
      omega

/-- If a total leaves the range of amounts, then so does the sum for its procurement. -/
theorem size_le_of_addTo {l : List Disbursement} {start : Totals} {p : RecordId}
    (h : addTo start l = .error p) : Amount.size ≤ start.paid p + paidFor p l := by
  induction l generalizing start with
  | nil => cases h
  | cons d l ih =>
    rw [addTo] at h
    split at h
    · next none =>
      cases h
      have out : Amount.size ≤ start.paid d.procurement + d.amount.toNat :=
        Amount.ofNat?_eq_none_iff.1 none
      rw [paidFor_cons, if_pos rfl]
      omega
    · next total htotal =>
      have added : start.paid d.procurement + d.amount.toNat = total.toNat :=
        Amount.add?_eq_some_iff.1 htotal
      have out := ih h
      rw [Totals.paid_insert] at out
      rw [paidFor_cons]
      by_cases hp : d.procurement = p
      · subst hp
        rw [if_pos rfl] at out ⊢
        omega
      · rw [if_neg hp] at out ⊢
        omega

/-- If adding up fails, the procurement that is named has a sum that leaves the range. -/
theorem size_le_of_sums {l : List Disbursement} {p : RecordId} (h : sums l = .error p) :
    Amount.size ≤ paidFor p l := by
  have out := size_le_of_addTo h
  rwa [Totals.paid_empty, Nat.zero_add] at out

/-- **Adding up gives exactly the totals that are sums.** -/
theorem sums_eq_ok_iff {l : List Disbursement} (positive : ∀ d ∈ l, d.amount ≠ .zero)
    {t : Totals} : sums l = .ok t ↔ t.AreSums l := by
  constructor
  · intro h
    obtain ⟨noZero, sum⟩ := addTo_eq_ok positive Totals.noZero_empty h
    exact ⟨noZero, fun p => by rw [sum, Totals.paid_empty, Nat.zero_add]⟩
  · intro h
    obtain ⟨result, hresult⟩ := @exists_addTo l .empty fun p => by
      rw [Totals.paid_empty, Nat.zero_add, ← h.sum]
      exact t.paid_lt p
    obtain ⟨noZero, sum⟩ := addTo_eq_ok positive Totals.noZero_empty hresult
    have same : result = t := Totals.ext noZero h.noZero fun p => by
      rw [sum, Totals.paid_empty, Nat.zero_add, h.sum]
    rw [sums, hresult, same]

end Disbursement

/-! ## Keeping totals up to date -/

namespace Totals.AreSums

variable {t : Totals} {front back : List Disbursement} {d : Disbursement}

/-- One more disbursement, and its total with it. -/
theorem enter (h : t.AreSums (front ++ back)) (positive : d.amount ≠ .zero) {total : Amount}
    (added : t.paid d.procurement + d.amount.toNat = total.toNat) :
    Totals.AreSums (t.insert d.procurement total) (front ++ d :: back) where
  noZero := h.noZero.insert _ (Disbursement.ne_zero_of_add added positive)
  sum p := by
    have before := h.sum p
    rw [Disbursement.paidFor_append] at before
    rw [paid_insert, Disbursement.paidFor_append, Disbursement.paidFor_cons]
    by_cases hp : d.procurement = p
    · rw [if_pos hp, if_pos hp, ← added, hp]
      omega
    · rw [if_neg hp, if_neg hp]
      omega

/-- A disbursement is replaced by one of the same amount for the same procurement. -/
theorem replace (h : t.AreSums (front ++ d :: back)) {d' : Disbursement}
    (procurement : d'.procurement = d.procurement) (amount : d'.amount = d.amount) :
    t.AreSums (front ++ d' :: back) where
  noZero := h.noZero
  sum p := by
    rw [h.sum, Disbursement.paidFor_append, Disbursement.paidFor_append, Disbursement.paidFor_cons,
      Disbursement.paidFor_cons, procurement, amount]

/-- A procurement has a total exactly if something was paid out for it. -/
theorem mem_keys_iff {l : List Disbursement} (h : t.AreSums l)
    (positive : ∀ d ∈ l, d.amount ≠ .zero) {p : RecordId} :
    p ∈ t.keys ↔ ∃ d ∈ l, d.procurement = p := by
  rw [OrderedMap.mem_keys_iff]
  constructor
  · rintro ⟨a, found⟩
    refine Classical.byContradiction fun unpaid => h.noZero p a found (Amount.ext ?_)
    have nothing := Disbursement.paidFor_eq_zero fun d hd same => unpaid ⟨d, hd, same⟩
    rwa [← h.sum, paid, found] at nothing
  · rintro ⟨d, hd, rfl⟩
    cases found : t.get? d.procurement with
    | some a => exact ⟨a, rfl⟩
    | none =>
      have nothing := h.sum d.procurement
      rw [paid, found] at nothing
      exact absurd (Amount.ext (Disbursement.amount_eq_zero hd nothing.symm)) (positive d hd)

end Totals.AreSums

/-! ## Comparing totals with sums -/

namespace Disbursement

/-- Stored totals for different procurements are all what the sums say, and the sums for other
procurements are left over, or one of them is not and is named. -/
theorem compareTotals_cases {l : List (RecordId × Amount)} (distinct : (l.map Prod.fst).Nodup)
    (sums : Totals) :
    (∃ rest, compareTotals sums l = .ok rest ∧
      (∀ e ∈ l, e.2 = (sums.get? e.1).getD .zero) ∧
      ∀ p, rest.get? p = if p ∈ l.map Prod.fst then none else sums.get? p) ∨
    ∃ e ∈ l, e.2 ≠ (sums.get? e.1).getD .zero ∧
      compareTotals sums l = .error (.totalsDisagree e.1 e.2 ((sums.get? e.1).getD .zero)) := by
  induction l generalizing sums with
  | nil => exact .inl ⟨sums, rfl, fun _ he => absurd he List.not_mem_nil, fun p => by simp⟩
  | cons e l ih =>
    rw [List.map_cons, List.nodup_cons] at distinct
    -- The sums for the other procurements are still there when it is their turn.
    have later : ∀ f ∈ l, (sums.erase e.1).get? f.1 = sums.get? f.1 := by
      intro f hf
      exact OrderedMap.get?_erase_of_ne _ fun same =>
        distinct.1 (same ▸ List.mem_map_of_mem hf)
    by_cases same : e.2 = (sums.get? e.1).getD .zero
    · have step : compareTotals sums (e :: l) = compareTotals (sums.erase e.1) l := by
        rw [compareTotals]
        exact if_pos same
      rw [step]
      rcases ih distinct.2 (sums.erase e.1) with
        ⟨rest, compared, agree, left⟩ | ⟨f, hf, differ, compared⟩
      · refine .inl ⟨rest, compared, List.forall_mem_cons.2 ⟨same, fun f hf => ?_⟩, fun p => ?_⟩
        · rw [agree f hf, later f hf]
        · rw [left, List.map_cons]
          by_cases here : p = e.1
          · subst here
            simp
          · simp only [List.mem_cons, here, false_or, OrderedMap.get?_erase_of_ne _ here]
      · rw [later f hf] at differ compared
        exact .inr ⟨f, List.mem_cons_of_mem _ hf, differ, compared⟩
    · refine .inr ⟨e, List.mem_cons_self .., same, ?_⟩
      rw [compareTotals]
      exact if_neg same

/-- Totals agree with themselves, and nothing is left over. -/
theorem compareTotals_self (t : Totals) : compareTotals t t.toList = .ok .empty := by
  rcases compareTotals_cases t.nodup_keys t with
    ⟨rest, compared, -, left⟩ | ⟨e, he, differ, -⟩
  · rw [compared]
    refine congrArg Except.ok (OrderedMap.ext_get? fun p => ?_)
    rw [left]
    split
    · rfl
    · next absent => exact t.get?_eq_none_iff.2 absent
  · rw [t.get?_eq_some_iff.2 he] at differ
    exact absurd rfl differ

end Disbursement

/-! ## Totals in an export -/

namespace DisbursementSection

/-- Totals with different procurements are put into a map. -/
theorem collect_eq_ok {l : List DisbursedTotal} (distinct : (l.map (·.procurement)).Nodup)
    {seen : Totals} (unseen : ∀ e ∈ l, seen.get? e.procurement = none) :
    collect seen l =
      .ok ((l.map fun e => (e.procurement, e.total)).foldl (fun m e => m.insert e.1 e.2) seen) := by
  induction l generalizing seen with
  | nil => rfl
  | cons e l ih =>
    rw [List.map_cons, List.nodup_cons] at distinct
    obtain ⟨new, distinct⟩ := distinct
    have absent : seen.contains e.procurement = false := by
      rw [OrderedMap.contains, unseen e (List.mem_cons_self ..)]
      rfl
    rw [collect, absent, if_neg Bool.false_ne_true, ih distinct]
    · rfl
    · intro f hf
      have other : f.procurement ≠ e.procurement := by
        intro same
        exact new (List.mem_map.2 ⟨f, hf, same⟩)
      rw [OrderedMap.get?_insert_of_ne _ other]
      exact unseen f (List.mem_cons_of_mem _ hf)

theorem compareAt_self (t : Totals) (l : List RecordId) : compareAt t t l = .ok () := by
  induction l with
  | nil => rfl
  | cons p l ih => simp [compareAt, ih]

/-- The sums of a section are accepted if no procurement is named twice and the totals agree. -/
theorem recompute_eq_ok_iff {s : DisbursementSection} {t : Totals} :
    s.recompute = .ok t ↔ Disbursement.sums s.records = .ok t ∧
      ∃ exported, collect .empty s.totals = .ok exported ∧
        compareAt t exported (t.keys ++ exported.keys) = .ok () := by
  unfold recompute
  cases hsums : Disbursement.sums s.records with
  | error p => simp
  | ok sums =>
    cases hcollect : collect .empty s.totals with
    | error e => simp
    | ok exported =>
      simp only [Except.ok.injEq, exists_eq_left']
      cases hcompare : compareAt sums exported (sums.keys ++ exported.keys) with
      | error e =>
        simp only [reduceCtorEq, false_iff, not_and]
        rintro rfl compared
        rw [hcompare] at compared
        cases compared
      | ok u =>
        simp only [Except.ok.injEq, iff_self_and]
        rintro rfl
        exact hcompare

/-- **An export whose totals are sums is accepted**, with these totals. -/
theorem recompute_eq_ok {l : List Disbursement} (positive : ∀ d ∈ l, d.amount ≠ .zero) {t : Totals}
    (h : t.AreSums l) (count : UInt64) :
    recompute ⟨l, count, t.toList.map fun e => ⟨e.1, e.2⟩⟩ = .ok t := by
  have collected :
      collect .empty (t.toList.map fun e => (⟨e.1, e.2⟩ : DisbursedTotal)) = .ok t := by
    rw [collect_eq_ok]
    · rw [List.map_map]
      exact congrArg Except.ok ((congrArg _ (List.map_id _)).trans t.ofList_toList)
    · rw [List.map_map]
      exact t.nodup_keys
    · exact fun _ _ => rfl
  exact recompute_eq_ok_iff.2
    ⟨(Disbursement.sums_eq_ok_iff positive).2 h, t, collected, compareAt_self t _⟩

/-- The totals that are accepted are the sums of the records. -/
theorem areSums_of_recompute {s : DisbursementSection}
    (positive : ∀ d ∈ s.records, d.amount ≠ .zero) {t : Totals} (h : s.recompute = .ok t) :
    t.AreSums s.records :=
  (Disbursement.sums_eq_ok_iff positive).1 (recompute_eq_ok_iff.1 h).1

end DisbursementSection

end PublicFunds
