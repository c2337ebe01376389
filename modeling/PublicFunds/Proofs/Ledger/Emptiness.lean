import PublicFunds.Proofs.Ledger.Acceptance

/-!
# Two ways to find a ledger empty

Whether a ledger was ever used is found out in two places.  A node that starts asks it of the export
of the whole ledger: there is no record in it and no id was given out.  Each book that a section is
to be loaded into asks its own store, first for the last id and then for its records.  A document
that is loaded because of the first answer would be loaded in part if a book gave another one.

The two agree on every ledger, in whatever order it is, if the export succeeds.  The book asks
nothing that the export has not asked before.

* `Register.isEmpty_iff`, `Book.isUnused_iff`: what a book finds, by what it exports.
* `Ledger.IsUsed`: some book has a record or gave out an id.
* `Ledger.isEmpty_iff`: the two ways agree.
-/

namespace PublicFunds

/-- A register is unused exactly if no record is read and the last id is zero. -/
theorem Register.isEmpty_iff {ρ : Type} [Record ρ] {r : Register ρ} {store : Store} {xs : List ρ}
    {n : UInt64} (records : r.all store = .ok xs) (last : r.last store = .ok n) :
    r.isEmpty store = .ok true ↔ xs = [] ∧ n = 0 := by
  obtain ⟨entries, found, length⟩ := scan_of_all records
  have none : entries.isEmpty = true ↔ xs = [] := by
    rw [List.isEmpty_iff, ← List.length_eq_zero_iff, length, List.length_eq_zero_iff]
  rw [isEmpty, last, found]
  show (if n = 0 then Except.ok entries.isEmpty else .ok false) = .ok true ↔ _
  split
  · next hn => rw [Except.ok.injEq, none, and_iff_left hn]
  · next hn => simp [hn]

namespace Book

variable {b : Book} {store : Store}

/-- What is exported is read from the store. -/
theorem all_of_extract {x : b.Extract} (h : b.extract store = .ok x) :
    b.register.all store = .ok (b.recordsOf x) ∧ b.register.last store = .ok (b.countOf x) := by
  cases b with
  | scorecards => exact Register.extract_eq_ok_iff.1 h
  | budgets => exact Register.extract_eq_ok_iff.1 h
  | procurements => exact Register.extract_eq_ok_iff.1 h
  | disbursements => exact Register.extract_eq_ok_iff.1 (extract_of_disbursements h).1
  | delegations => exact Register.extract_eq_ok_iff.1 h

/-- A book is unused exactly if nothing is exported. -/
theorem isUnused_iff {x : b.Extract} (h : b.extract store = .ok x) :
    b.IsUnused store ↔ b.recordsOf x = [] ∧ b.countOf x = 0 := by
  obtain ⟨records, last⟩ := all_of_extract h
  exact Register.isEmpty_iff records last

/-- A book in order can be exported if what an export asks meets no fault. -/
theorem Orderly.exists_extract {format : AddressFormat} (h : b.Orderly format store.entries)
    (within : store.entries.Within (Bytes.reach 8)) (legible : b.Legible store) :
    ∃ x, b.extract store = .ok x := by
  have healthy := store.healthy_mended
  have mended : b.Orderly format store.mended.entries := h
  rw [extract_congr (t := store.mended) legible (legible_of_healthy healthy) rfl]
  cases b with
  | scorecards =>
    obtain ⟨c, keeps, -⟩ := mended
    exact ⟨_, keeps.extract within healthy⟩
  | budgets =>
    obtain ⟨c, keeps, -⟩ := mended
    exact ⟨_, keeps.extract within healthy⟩
  | procurements =>
    obtain ⟨c, keeps, -⟩ := mended
    exact ⟨_, keeps.extract within healthy⟩
  | disbursements =>
    obtain ⟨c, t, keeps, -⟩ := mended
    exact ⟨_, keeps.extract within healthy⟩
  | delegations =>
    obtain ⟨c, keeps, -⟩ := mended
    exact ⟨_, keeps.extract within healthy⟩

end Book

/-- A document is empty if every section is. -/
theorem Genesis.isEmpty_iff {g : Genesis} :
    g.isEmpty = true ↔
      ∀ b : Book, b.recordsOf (g.extract b) = [] ∧ b.countOf (g.extract b) = 0 := by
  have each : (∀ b : Book, b.recordsOf (g.extract b) = [] ∧ b.countOf (g.extract b) = 0) ↔
      ∀ b ∈ Book.all, b.recordsOf (g.extract b) = [] ∧ b.countOf (g.extract b) = 0 :=
    ⟨fun h b _ => h b, fun h b => h b b.mem_all⟩
  rw [each]
  simp only [isEmpty, recordCount, Book.all, List.foldl_cons, List.foldl_nil, List.all_cons,
    List.all_nil, List.forall_mem_cons, List.not_mem_nil, ← List.length_eq_zero_iff,
    Bool.and_eq_true, beq_iff_eq, Nat.add_eq_zero_iff]
  tauto

namespace Ledger

variable {ledger : Ledger}

/-- Some book has a record or gave out an id. -/
def IsUsed (ledger : Ledger) : Prop :=
  ∃ b : Book, (∃ xs, b.register.all (ledger.store b) = .ok xs ∧ xs ≠ []) ∨
    ∃ n, b.register.last (ledger.store b) = .ok n ∧ n ≠ 0

/-- A ledger is found empty or not by its export. -/
theorem isEmpty_eq_ok {v : Bool} (h : ledger.isEmpty = .ok v) :
    ∃ g, ledger.extract = .ok g ∧ g.isEmpty = v := by
  unfold isEmpty at h
  cases exported : ledger.extract with
  | error e =>
    rw [exported] at h
    cases h
  | ok g =>
    rw [exported] at h
    exact ⟨g, rfl, Except.ok.inj h⟩

/-- A ledger that is found empty or not is legible. -/
theorem legible_of_isEmpty {v : Bool} (h : ledger.isEmpty = .ok v) : ledger.Legible := by
  obtain ⟨g, exported, -⟩ := isEmpty_eq_ok h
  exact legible_of_extract exported

/-- **The two ways to find a ledger empty agree.** -/
theorem isEmpty_iff {v : Bool} (h : ledger.isEmpty = .ok v) : v = true ↔ ledger.IsUnused := by
  obtain ⟨g, exported, rfl⟩ := isEmpty_eq_ok h
  rw [Genesis.isEmpty_iff]
  exact forall_congr' fun b => (Book.isUnused_iff (extract_of_extract exported b)).symm

/-- A ledger is in use exactly if it is not found empty. -/
theorem isUsed_iff {v : Bool} (h : ledger.isEmpty = .ok v) : ledger.IsUsed ↔ v = false := by
  obtain ⟨g, exported, rfl⟩ := isEmpty_eq_ok h
  have books := fun b => Book.all_of_extract (extract_of_extract exported b)
  rw [← Bool.not_eq_true, Genesis.isEmpty_iff, not_forall]
  refine exists_congr fun b => ?_
  rw [(books b).1, (books b).2, not_and_or]
  simp

/-- A ledger in order is found empty or not if what an export asks meets no fault. -/
theorem Orderly.exists_isEmpty (h : ledger.Orderly) (within : ledger.Within (Bytes.reach 8))
    (legible : ledger.Legible) : ∃ v, ledger.isEmpty = .ok v := by
  have books : ∀ b, ∃ x, ledger.extractBook b = .ok x := fun b => by
    obtain ⟨x, exported⟩ := (h b).exists_extract (within b) (legible b)
    exact ⟨x, by rw [extractBook, exported]; rfl⟩
  obtain ⟨g, exported, -⟩ := extract_of_books books
  exact ⟨g.isEmpty, by rw [isEmpty, exported]; rfl⟩

/-- Legible ledgers with the same entries are found empty alike. -/
theorem isEmpty_congr {l m : Ledger} (hl : l.Legible) (hm : m.Legible)
    (same : ∀ b, (l.store b).entries = (m.store b).entries) : l.isEmpty = m.isEmpty := by
  rw [isEmpty, isEmpty, extract_congr hl hm same]

end Ledger

end PublicFunds
