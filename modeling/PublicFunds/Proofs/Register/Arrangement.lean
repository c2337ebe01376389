import Mathlib.Data.List.Sort
import PublicFunds.Proofs.Register.Reproduction

/-!
# Sections that are well formed, and what becomes of them

A section is loaded into an unused register exactly if it is well formed: its records pass their
checks, no id comes up twice, and none is above the last.  What the register exports afterwards is
the section with its records in the order of their ids.  So it does not matter in which order they
came, and a section that is exported comes back as it was.

* `ascendingBy`, `ascendingBy_eq`: some values in the order of their keys, of which there is one.
* `Section.WellFormed`, `Section.Rearranges`: sections that are accepted, and sections that differ
  in the order of records.
* `Section.arranged`: what is exported.
* `Register.loadVetted_isOk_iff`, `Register.loadVettedPaired_isOk_iff`: what is accepted.
* `Register.Keeps.extract_of_load`, `Register.Keeps.extract_of_loadPaired`: what comes out again.
-/

namespace PublicFunds

/-! ## Ascending lists -/

section Ascending

variable {α : Type} {key : α → UInt64}

instance total_ascendingBy : Std.Total fun a b : α => key a ≤ key b := ⟨fun _ _ => Std.le_total⟩

instance isTrans_ascendingBy : IsTrans α fun a b => key a ≤ key b := ⟨fun _ _ _ => UInt64.le_trans⟩

/-- Some values in the order of their keys. -/
def ascendingBy (key : α → UInt64) (l : List α) : List α :=
  l.insertionSort fun a b => key a ≤ key b

/-- **There is only one ascending list** of some values with different keys. -/
theorem ascendingBy_eq {l m : List α} (same : l.Perm m)
    (ascending : m.Pairwise fun a b => key a < key b) : ascendingBy key l = m := by
  have distinct : ∀ a ∈ m, ∀ b ∈ m, key a = key b → a = b := by
    refine fun a ha b hb => List.inj_on_of_nodup_map ?_ ha hb
    rw [List.Nodup, List.pairwise_map]
    exact ascending.imp UInt64.ne_of_lt
  have perm := (List.perm_insertionSort (fun a b => key a ≤ key b) l).trans same
  refine perm.eq_of_pairwise (fun a b ha hb le ge => ?_) (List.pairwise_insertionSort _ l)
    (ascending.imp UInt64.le_of_lt)
  exact distinct a (perm.subset ha) b hb (UInt64.le_antisymm le ge)

/-- Some values with different keys are arranged in an ascending list. -/
theorem pairwise_ascendingBy {l : List α} (distinct : (l.map key).Nodup) :
    (ascendingBy key l).Pairwise fun a b => key a < key b := by
  have perm := List.perm_insertionSort (fun a b => key a ≤ key b) l
  have apart := (perm.map key).nodup_iff.2 distinct
  rw [List.Nodup, List.pairwise_map] at apart
  refine (List.pairwise_insertionSort _ l).imp₂ (fun a b le differ => ?_) apart
  exact UInt64.lt_of_le_of_ne le differ

/-- It does not matter in which order values with different keys are given. -/
theorem ascendingBy_perm {l m : List α} (same : l.Perm m) (distinct : (l.map key).Nodup) :
    ascendingBy key l = ascendingBy key m := by
  refine ascendingBy_eq (same.trans (List.perm_insertionSort _ m).symm) (pairwise_ascendingBy ?_)
  exact (same.map key).nodup_iff.1 distinct

end Ascending

/-- The keys of a map are an ascending list. -/
theorem OrderedMap.pairwise_keys {β : Type} (m : OrderedMap UInt64 β) :
    m.keys.Pairwise fun a b => a < b := by
  rw [keys, List.pairwise_map]
  exact m.ascending.imp fun before => Std.compare_eq_lt.1 before

/-! ## Sections -/

namespace Section

variable {ρ : Type} [Record ρ]

/-- A section that could have been exported: its records pass their checks, no id comes up twice,
and none is above the last. -/
structure WellFormed [Vetted ρ] (format : AddressFormat) (s : Section ρ) : Prop where
  checked : ∀ x ∈ s.records, Vetted.check format x = .ok ()
  distinct : (s.records.map Record.id).Nodup
  given : ∀ x ∈ s.records, Record.id x ≤ s.count

/-- A section whose records stand in another order. -/
structure Rearranges {ρ : Type} (s t : Section ρ) : Prop where
  records : s.records.Perm t.records
  count : s.count = t.count

/-- The section with its records in the order of their ids. -/
def arranged (s : Section ρ) : Section ρ := ⟨ascendingBy Record.id s.records, s.count⟩

theorem wellFormed_iff [Vetted ρ] {format : AddressFormat} {s : Section ρ} :
    s.WellFormed format ↔
      Vetted.checkAll format s.records = .ok () ∧ s.checkIds = .ok () := by
  rw [Vetted.checkAll_eq_ok_iff, checkIds_eq_ok_iff]
  constructor
  · rintro ⟨checked, distinct, given⟩
    exact ⟨checked, fun x hx => ⟨(Vetted.of_check (checked x hx)).1, given x hx⟩, distinct⟩
  · rintro ⟨checked, given, distinct⟩
    exact ⟨checked, distinct, fun x hx => (given x hx).2⟩

namespace Rearranges

variable {s t : Section ρ}

theorem wellFormed [Vetted ρ] {format : AddressFormat} (h : s.Rearranges t)
    (fine : s.WellFormed format) : t.WellFormed format where
  checked x hx := fine.checked x (h.records.symm.subset hx)
  distinct := (h.records.map _).nodup_iff.1 fine.distinct
  given x hx := by
    rw [← h.count]
    exact fine.given x (h.records.symm.subset hx)

/-- What becomes of a section does not depend on the order of its records. -/
theorem arranged_eq [Vetted ρ] {format : AddressFormat} (h : s.Rearranges t)
    (fine : s.WellFormed format) : t.arranged = s.arranged := by
  rw [arranged, arranged, ascendingBy_perm h.records fine.distinct, h.count]

end Rearranges

end Section

/-! ## Registers -/

namespace Register

variable {ρ : Type} [Record ρ]

namespace Contents

/-- The contents that a section describes, as an ascending list. -/
theorem values_ofSection_eq {s : Section ρ} (ids : s.checkIds = .ok ()) :
    (ofSection s).records.values = ascendingBy Record.id s.records := by
  refine (ascendingBy_eq (values_ofSection ids).symm ?_).symm
  rw [OrderedMap.values, List.pairwise_map]
  have own : ∀ e ∈ (ofSection s).records.toList, Record.id e.2 = e.1 := fun e he =>
    ((get?_ofSection ids).1 ((ofSection s).records.get?_eq_some_iff.2 he)).2
  refine (ofSection s).records.ascending.imp_of_mem fun {a b} ha hb before => ?_
  rw [own a ha, own b hb]
  exact Std.compare_eq_lt.1 before

end Contents

variable [Vetted ρ] {r : Register ρ} {format : AddressFormat} {store : Store} {s : Section ρ}

/-- A section is accepted by an unused register exactly if it is well formed. -/
theorem loadVetted_isOk_iff (unused : r.isEmpty store = .ok true) :
    (∃ batch, r.loadVetted format store s = .ok ((), batch)) ↔ s.WellFormed format := by
  simp only [loadVetted_eq_ok_iff, unused, true_and, Section.wellFormed_iff]
  constructor
  · rintro ⟨_, checked, ids, -⟩
    exact ⟨checked, ids⟩
  · rintro ⟨checked, ids⟩
    exact ⟨_, checked, ids, rfl⟩

/-- Where records are unique under a pair, no two of the section may have one. -/
theorem loadVettedPaired_isOk_iff [Paired ρ] {region : UInt8} (index : r.index = some region)
    (unused : r.isEmpty store = .ok true) :
    (∃ batch, r.loadVettedPaired format store s = .ok ((), batch)) ↔
      s.WellFormed format ∧ (s.records.map Paired.pair).Nodup := by
  simp only [loadVettedPaired_eq_ok_iff index, unused, true_and, Section.wellFormed_iff,
    Section.checkPairs_eq_ok_iff]
  constructor
  · rintro ⟨_, checked, pairs, ids, -⟩
    exact ⟨⟨checked, ids⟩, pairs⟩
  · rintro ⟨⟨checked, ids⟩, pairs⟩
    exact ⟨_, checked, pairs, ids, rfl⟩

/-- What a register exports that holds exactly a section. -/
theorem Keeps.extract_ofSection [FaithfulRecord ρ]
    (h : r.Keeps format store.entries (.ofSection s)) (ids : s.checkIds = .ok ())
    (within : store.entries.Within (Bytes.reach 8)) (healthy : store.Healthy) :
    r.extract store = .ok s.arranged := by
  rw [h.extract within healthy, Contents.values_ofSection_eq ids]
  rfl

variable [FaithfulRecord ρ] {c : Contents ρ} {batch : Batch} {after : Store}

/-- A register that a section has been loaded into exports the section in order. -/
theorem Keeps.extract_of_load (h : r.Keeps format store.entries c) (apart : r.records ≠ r.counter)
    (planned : r.loadVetted format store s = .ok ((), batch))
    (written : after.entries = store.entries.apply batch)
    (within : after.entries.Within (Bytes.reach 8)) (healthy : after.Healthy) :
    r.extract after = .ok s.arranged := by
  obtain ⟨ids, -, loaded⟩ := h.load apart planned r.records
  rw [← written] at loaded
  exact loaded.extract_ofSection ids within healthy

/-- It does not matter for this whether there is an index. -/
theorem Keeps.extract_of_loadPaired [Paired ρ] {region : UInt8}
    (h : r.Keeps format store.entries c) (placed : r.HasIndex region)
    (planned : r.loadVettedPaired format store s = .ok ((), batch))
    (written : after.entries = store.entries.apply batch)
    (within : after.entries.Within (Bytes.reach 8)) (healthy : after.Healthy) :
    r.extract after = .ok s.arranged := by
  obtain ⟨-, -, ids, -, loaded⟩ := h.load_indexed placed planned
  rw [← written] at loaded
  exact loaded.extract_ofSection ids within healthy

end Register

end PublicFunds
