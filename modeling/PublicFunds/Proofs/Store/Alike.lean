import PublicFunds.Proofs.Store.Change
import PublicFunds.Proofs.Store.Region

/-!
# Stores that cannot be told apart

The last id that was given out is zero if it is missing, and it is zero if a zero is written down.
Two stores that differ in nothing else answer everything alike that is ever asked, and a batch that
is written to both of them leaves them so.  Where a store lives makes no difference either: whether
a write succeeds depends on what goes wrong, and not on the medium.

* `Entries.Alike`, `Store.Alike`: the same up to a zero.
* `Store.Alike.find`, `Store.Alike.contains`, `Store.Alike.scan`: questions.
* `Store.Alike.carryOut`: changes.
-/

namespace PublicFunds

/-! ## Entries -/

/-- Entries that are the same, except that a zero under one key may be missing. -/
structure Entries.Alike (key : Bytes) (e f : Entries) : Prop where
  elsewhere : ∀ k, k ≠ key → e.get? k = f.get? k
  count : (e.get? key).getD (Layout.count 0) = (f.get? key).getD (Layout.count 0)

namespace Entries.Alike

variable {key : Bytes} {e f : Entries}

/-- What an edit leaves under its key does not depend on what was there. -/
theorem get?_edit_key (e f : Entries) (change : Edit) :
    (e.edit change).get? change.key = (f.edit change).get? change.key := by
  cases change with
  | put k value =>
    exact (OrderedMap.get?_insert_self ..).trans (OrderedMap.get?_insert_self ..).symm
  | delete k => exact (OrderedMap.get?_erase_self ..).trans (OrderedMap.get?_erase_self ..).symm

/-- An edit of both. -/
theorem edit (h : Alike key e f) (change : Edit) : Alike key (e.edit change) (f.edit change) := by
  constructor
  · intro k hk
    by_cases here : k = change.key
    · rw [here, get?_edit_key e f]
    · rw [Entries.get?_edit_of_ne _ here, Entries.get?_edit_of_ne _ here, h.elsewhere k hk]
  · by_cases here : key = change.key
    · rw [here, get?_edit_key e f]
    · rw [Entries.get?_edit_of_ne _ here, Entries.get?_edit_of_ne _ here, h.count]

/-- A batch for both. -/
theorem apply (h : Alike key e f) (batch : Batch) : Alike key (e.apply batch) (f.apply batch) := by
  induction batch generalizing e f with
  | nil => exact h
  | cons change batch ih => exact ih (h.edit change)

end Entries.Alike

namespace Store

/-- Stores with the same faults that are the same up to a zero. -/
structure Alike (key : Bytes) (s t : Store) : Prop where
  entries : Entries.Alike key s.entries t.entries
  faults : s.faults = t.faults

namespace Alike

variable {key : Bytes} {s t : Store}

theorem find (h : Alike key s t) {k : Bytes} (hk : k ≠ key) : s.find k = t.find k := by
  rw [Store.find, Store.find, ask, ask, h.faults, h.entries.elsewhere k hk]

theorem contains (h : Alike key s t) {k : Bytes} (hk : k ≠ key) : s.contains k = t.contains k := by
  rw [Store.contains, Store.contains, ask, ask, h.faults, OrderedMap.contains, OrderedMap.contains,
    h.entries.elsewhere k hk]

theorem scan (h : Alike key s t) {region : UInt8} (outside : ∀ rest, region :: rest ≠ key) :
    s.scan [region] = t.scan [region] := by
  rw [Store.scan, Store.scan, ask, ask, h.faults,
    Entries.startingWith_congr fun rest => h.entries.elsewhere _ (outside rest)]

/-- A batch that is written to both. -/
theorem write (h : Alike key s t) (batch : Batch) :
    (s.write batch).1 = (t.write batch).1 ∧ Alike key (s.write batch).2 (t.write batch).2 := by
  have same : (s.write batch).1 = (t.write batch).1 := by rw [write_fst, write_fst, h.faults]
  refine ⟨same, ?_, ?_⟩
  · rcases hs : s.write batch with ⟨result, after⟩
    rcases ht : t.write batch with ⟨result', after'⟩
    rw [hs, ht] at same
    simp only at same
    subst same
    cases result with
    | error fault =>
      rw [(write_error hs).1, (write_error ht).1]
      exact h.entries
    | ok u =>
      rw [write_ok hs, write_ok ht]
      exact h.entries.apply batch
  · rw [faults_write, faults_write, h.faults]

theorem commit (h : Alike key s t) (batch : Batch) :
    (s.commit batch).1 = (t.commit batch).1 ∧ Alike key (s.commit batch).2 (t.commit batch).2 := by
  unfold Store.commit
  split
  · exact ⟨rfl, h⟩
  · exact h.write batch

/-- **A change that has been worked out for both.**  The answers are the same, and the stores remain
alike. -/
theorem carryOut {α : Type} (h : Alike key s t) (plan : Plan α) :
    (s.carryOut plan).1 = (t.carryOut plan).1 ∧
      Alike key (s.carryOut plan).2 (t.carryOut plan).2 := by
  cases plan with
  | error e => exact ⟨rfl, h⟩
  | ok p =>
    obtain ⟨same, alike⟩ := h.commit p.2
    rcases hs : s.commit p.2 with ⟨result, after⟩
    rcases ht : t.commit p.2 with ⟨result', after'⟩
    rw [hs, ht] at same alike
    simp only at same
    subst same
    cases result with
    | error fault =>
      simp only [Store.carryOut, hs, ht]
      exact ⟨trivial, alike⟩
    | ok u =>
      simp only [Store.carryOut, hs, ht]
      exact ⟨trivial, alike⟩

/-- New faults for both. -/
theorem withFaults (h : Alike key s t) (faults : Faults) :
    Alike key { s with faults } { t with faults } :=
  ⟨h.entries, rfl⟩

end Alike

end Store

end PublicFunds
