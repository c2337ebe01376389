import PublicFunds.Ledger.Book

/-!
# What loading a section takes, and what it writes

A section is loaded under conditions of two kinds.  The register must never have been used, which is
a question to the store, and the section must be one that such a register could have come to, which
is a question to the section alone.  Once both are answered, what is written depends on the section
only.  That is why loading can be rehearsed in another store at all.

Whatever else is written, the last id is, and nothing that comes after it in the batch writes there
again.

* `Section.checkIds_eq_ok_iff`, `Section.checkPairs_eq_ok_iff`: what the checks of a section say.
* `Register.loadVetted_eq_ok_iff`, `Register.loadVettedPaired_eq_ok_iff`,
  `Disbursement.load_eq_ok_iff`: when a section is loaded and the batch that does it.
* `Book.load_congr`: loading asks the store one question.
* `Book.exists_of_load`: the last id is written.
-/

namespace PublicFunds

/-! ## The checks of a section -/

namespace Section

variable {ρ : Type}

/-- Ids that come after others pass exactly if none is zero or above the last, none is among those
before, and no two are the same. -/
theorem checkIdsAfter_eq_ok_iff {kind : String} {count : UInt64} {seen ids : List RecordId} :
    checkIdsAfter kind count seen ids = .ok () ↔
      (∀ id ∈ ids, id ≠ 0 ∧ id ∉ seen ∧ id ≤ count) ∧ ids.Nodup := by
  induction ids generalizing seen with
  | nil => simp [checkIdsAfter]
  | cons id rest ih =>
    rw [checkIdsAfter]
    by_cases hzero : id = 0
    · simp [hzero]
    by_cases hseen : id ∈ seen
    · simp [hzero, hseen]
    by_cases hcount : count < id
    · have above : ¬ id ≤ count := UInt64.not_le.2 hcount
      simp [hzero, hseen, hcount, above]
    · have within : id ≤ count := UInt64.not_lt.1 hcount
      rw [if_neg hzero, if_neg hseen, if_neg hcount, ih, List.nodup_cons]
      constructor
      · rintro ⟨each, distinct⟩
        refine ⟨fun i hi => ?_, fun hi => ?_, distinct⟩
        · rcases List.mem_cons.1 hi with rfl | hi
          · exact ⟨hzero, hseen, within⟩
          · obtain ⟨nonzero, fresh, le⟩ := each i hi
            exact ⟨nonzero, fun h => fresh (List.mem_cons_of_mem _ h), le⟩
        · exact (each id hi).2.1 (List.mem_cons_self ..)
      · rintro ⟨each, fresh, distinct⟩
        refine ⟨fun i hi => ?_, distinct⟩
        obtain ⟨nonzero, unseen, le⟩ := each i (List.mem_cons_of_mem _ hi)
        refine ⟨nonzero, fun h => ?_, le⟩
        rcases List.mem_cons.1 h with rfl | h
        · exact fresh hi
        · exact unseen h

/-- The ids of a section could have been given out: none is zero or above the last, and no two are
the same. -/
theorem checkIds_eq_ok_iff [Record ρ] {s : Section ρ} :
    s.checkIds = .ok () ↔
      (∀ r ∈ s.records, Record.id r ≠ 0 ∧ Record.id r ≤ s.count) ∧
        (s.records.map Record.id).Nodup := by
  rw [checkIds, checkIdsAfter_eq_ok_iff]
  simp

/-- A section without a last id has no records. -/
theorem records_eq_nil [Record ρ] {s : Section ρ} (h : s.checkIds = .ok ()) (count : s.count = 0) :
    s.records = [] := by
  rw [checkIds_eq_ok_iff, count] at h
  refine List.eq_nil_iff_forall_not_mem.2 fun r hr => ?_
  obtain ⟨nonzero, le⟩ := h.1 r hr
  exact nonzero (UInt64.le_antisymm le (UInt64.le_iff_toNat_le.2 (Nat.zero_le _)))

theorem checkPairsAfter_eq_ok_iff {kind : String} {seen pairs : List PairKey} :
    checkPairsAfter kind seen pairs = .ok () ↔ (∀ pair ∈ pairs, pair ∉ seen) ∧ pairs.Nodup := by
  induction pairs generalizing seen with
  | nil => simp [checkPairsAfter]
  | cons pair rest ih =>
    rw [checkPairsAfter]
    by_cases hseen : pair ∈ seen
    · simp [hseen]
    · rw [if_neg hseen, ih, List.nodup_cons]
      constructor
      · rintro ⟨each, distinct⟩
        refine ⟨fun p hp => ?_, fun hp => ?_, distinct⟩
        · rcases List.mem_cons.1 hp with rfl | hp
          · exact hseen
          · exact fun h => each p hp (List.mem_cons_of_mem _ h)
        · exact each pair hp (List.mem_cons_self ..)
      · rintro ⟨each, fresh, distinct⟩
        refine ⟨fun p hp h => ?_, distinct⟩
        rcases List.mem_cons.1 h with rfl | h
        · exact fresh hp
        · exact each p (List.mem_cons_of_mem _ hp) h

/-- No two records of a section have one pair. -/
theorem checkPairs_eq_ok_iff [Record ρ] [Paired ρ] {s : Section ρ} :
    s.checkPairs = .ok () ↔ (s.records.map Paired.pair).Nodup := by
  rw [checkPairs, checkPairsAfter_eq_ok_iff]
  simp

end Section

/-- The checks of an export pass exactly if every record passes its own. -/
theorem Vetted.checkAll_eq_ok_iff {ρ : Type} [Record ρ] [Vetted ρ] {format : AddressFormat}
    {records : List ρ} :
    checkAll format records = .ok () ↔ ∀ r ∈ records, check format r = .ok () := by
  induction records with
  | nil => simp [checkAll]
  | cons r rest ih =>
    rw [checkAll]
    cases hr : check format r with
    | error e => simp [hr]
    | ok u => simp [hr, ih]

/-! ## Loading into a register -/

namespace Register

variable {ρ : Type} [Record ρ]

/-- The batch that loads a section: every record, and the last id. -/
def loading (r : Register ρ) (s : Section ρ) : Batch := s.records.map r.entry ++ r.setLast s.count

/-- The batch that writes the index entries of some records in a region. -/
def indexing [Paired ρ] (region : UInt8) (records : List ρ) : Batch :=
  records.map fun x => .put (Layout.pairKey region (Paired.pair x)) (Layout.count (Record.id x))

/-- Index entries do not stand where the last id stands. -/
theorem counter_ne_indexing [Paired ρ] {counter region : UInt8} (h : counter ≠ region)
    (records : List ρ) : ∀ e ∈ indexing region records, [counter] ≠ e.key := by
  intro e he
  obtain ⟨x, -, rfl⟩ := List.mem_map.1 he
  exact fun same => h (List.cons.inj same).1

theorem load_eq_ok_iff {r : Register ρ} {store : Store} {s : Section ρ} {batch : Batch} :
    r.load store s = .ok batch ↔
      r.isEmpty store = .ok true ∧ s.checkIds = .ok () ∧ batch = r.loading s := by
  unfold load
  split
  · next h => simp [h]
  · next h => simp [h]
  · next h =>
    cases hids : s.checkIds with
    | error e => simp
    | ok u => simp [h, loading, eq_comm]

theorem load_congr {r : Register ρ} {store other : Store}
    (h : r.isEmpty store = r.isEmpty other) (s : Section ρ) : r.load store s = r.load other s := by
  rw [load, load, h]

theorem stagePairs_eq [Paired ρ] {r : Register ρ} {region : UInt8} (h : r.index = some region)
    (records : List ρ) : r.stagePairs records = .ok (indexing region records) := by
  induction records with
  | nil => rfl
  | cons x rest ih => simp [stagePairs, stagePair, indexRegion, h, ih, indexing, Except.map]

theorem loadPaired_eq_ok_iff [Paired ρ] {r : Register ρ} {region : UInt8}
    (h : r.index = some region) {store : Store} {s : Section ρ} {batch : Batch} :
    r.loadPaired store s = (batch, .ok ()) ↔
      r.isEmpty store = .ok true ∧ s.checkPairs = .ok () ∧ s.checkIds = .ok () ∧
        batch = r.loading s ++ indexing region s.records := by
  unfold loadPaired
  cases hpairs : s.checkPairs with
  | error e => simp
  | ok u =>
    cases hload : r.load store s with
    | error e =>
      have refused : ¬ (r.isEmpty store = .ok true ∧ s.checkIds = .ok ()) := by
        rintro ⟨hempty, hids⟩
        rw [load_eq_ok_iff.2 ⟨hempty, hids, rfl⟩] at hload
        cases hload
      simp only [Prod.mk.injEq, reduceCtorEq, and_false, false_iff]
      rintro ⟨hempty, -, hids, -⟩
      exact refused ⟨hempty, hids⟩
    | ok loaded =>
      obtain ⟨hempty, hids, rfl⟩ := load_eq_ok_iff.1 hload
      simp [stagePairs_eq h, hempty, hids, eq_comm]

theorem loadPaired_congr [Paired ρ] {r : Register ρ} {store other : Store}
    (h : r.isEmpty store = r.isEmpty other) (s : Section ρ) :
    r.loadPaired store s = r.loadPaired other s := by
  rw [loadPaired, loadPaired, load_congr h]

variable [Vetted ρ]

/-- A section is loaded exactly if its records pass their checks, its ids could have been given out
and the register was never used. -/
theorem loadVetted_eq_ok_iff {r : Register ρ} {format : AddressFormat} {store : Store}
    {s : Section ρ} {batch : Batch} :
    r.loadVetted format store s = .ok ((), batch) ↔
      r.isEmpty store = .ok true ∧ Vetted.checkAll format s.records = .ok () ∧
        s.checkIds = .ok () ∧ batch = r.loading s := by
  unfold loadVetted
  cases hrecords : Vetted.checkAll format s.records with
  | error e => simp
  | ok u =>
    cases hload : r.load store s with
    | error e =>
      simp only [reduceCtorEq, true_and, false_iff]
      rintro ⟨hempty, hids, -⟩
      rw [load_eq_ok_iff.2 ⟨hempty, hids, rfl⟩] at hload
      cases hload
    | ok loaded =>
      obtain ⟨hempty, hids, rfl⟩ := load_eq_ok_iff.1 hload
      simp [hempty, hids, eq_comm]

theorem loadVetted_congr (r : Register ρ) (format : AddressFormat) {store other : Store}
    (h : r.isEmpty store = r.isEmpty other) (s : Section ρ) :
    r.loadVetted format store s = r.loadVetted format other s := by
  rw [loadVetted, loadVetted, load_congr h]

theorem loadVettedPaired_congr [Paired ρ] (r : Register ρ) (format : AddressFormat)
    {store other : Store} (h : r.isEmpty store = r.isEmpty other) (s : Section ρ) :
    r.loadVettedPaired format store s = r.loadVettedPaired format other s := by
  rw [loadVettedPaired, loadVettedPaired, loadPaired_congr h]

/-- Where records are unique under a pair, no two of the section may have one, and the index is
written as well. -/
theorem loadVettedPaired_eq_ok_iff [Paired ρ] {r : Register ρ} {region : UInt8}
    (h : r.index = some region) {format : AddressFormat} {store : Store} {s : Section ρ}
    {batch : Batch} :
    r.loadVettedPaired format store s = .ok ((), batch) ↔
      r.isEmpty store = .ok true ∧ Vetted.checkAll format s.records = .ok () ∧
        s.checkPairs = .ok () ∧ s.checkIds = .ok () ∧
          batch = r.loading s ++ indexing region s.records := by
  unfold loadVettedPaired
  cases hrecords : Vetted.checkAll format s.records with
  | error e => simp
  | ok u =>
    rcases hload : r.loadPaired store s with ⟨loaded, result⟩
    cases result with
    | error e =>
      simp only [reduceCtorEq, true_and, false_iff]
      rintro ⟨hempty, hpairs, hids, -⟩
      rw [(loadPaired_eq_ok_iff h).2 ⟨hempty, hpairs, hids, rfl⟩] at hload
      cases hload
    | ok u =>
      obtain ⟨hempty, hpairs, hids, rfl⟩ := (loadPaired_eq_ok_iff h).1 hload
      simp [hempty, hpairs, hids, eq_comm]

end Register

/-! ## Loading disbursements -/

namespace Disbursement

/-- The batch that writes some totals. -/
def tallying (sums : Totals) : Batch := sums.toList.map fun entry => totals.entry entry.1 entry.2

/-- Totals do not stand where the last id stands. -/
theorem counter_ne_tallying (sums : Totals) : ∀ e ∈ tallying sums, [register.counter] ≠ e.key := by
  intro e he
  obtain ⟨entry, -, rfl⟩ := List.mem_map.1 he
  exact fun same => absurd (List.cons.inj same).1 (by decide)

/-- Without disbursements there are no totals. -/
theorem tallying_eq_nil {s : DisbursementSection} {sums : Totals} (h : s.records = [])
    (recomputed : s.recompute = .ok sums) : tallying sums = [] := by
  unfold DisbursementSection.recompute at recomputed
  rw [h] at recomputed
  simp only [Disbursement.sums, addTo] at recomputed
  split at recomputed
  · cases recomputed
  · split at recomputed
    · cases recomputed
    · cases recomputed
      rfl

/-- The totals of the section have to be the sums of its records, and these are written. -/
theorem load_eq_ok_iff {format : AddressFormat} {store : Store} {s : DisbursementSection}
    {batch : Batch} :
    load format store s = .ok ((), batch) ↔
      register.isEmpty store = .ok true ∧ Vetted.checkAll format s.records = .ok () ∧
        s.toSection.checkIds = .ok () ∧
          ∃ sums, s.recompute = .ok sums ∧
            batch = register.loading s.toSection ++ tallying sums := by
  unfold load
  cases hrecords : Vetted.checkAll format s.records with
  | error e => simp
  | ok u =>
    cases hsums : s.recompute with
    | error e => simp
    | ok sums =>
      cases hload : register.load store s.toSection with
      | error e =>
        simp only [reduceCtorEq, true_and, false_iff]
        rintro ⟨hempty, hids, -⟩
        rw [Register.load_eq_ok_iff.2 ⟨hempty, hids, rfl⟩] at hload
        cases hload
      | ok loaded =>
        obtain ⟨hempty, hids, rfl⟩ := Register.load_eq_ok_iff.1 hload
        simp [hempty, hids, tallying, eq_comm]

theorem load_congr (format : AddressFormat) {store other : Store}
    (h : register.isEmpty store = register.isEmpty other) (s : DisbursementSection) :
    load format store s = load format other s := by
  rw [load, load, Register.load_congr h]

end Disbursement

/-! ## Loading a book -/

namespace Book

/-- Loading asks the store whether the register was ever used, and nothing else. -/
theorem load_congr (b : Book) (format : AddressFormat) {store other : Store}
    (h : b.register.isEmpty store = b.register.isEmpty other) (x : b.Extract) :
    b.load format store x = b.load format other x := by
  cases b with
  | scorecards => exact Scorecard.register.loadVettedPaired_congr format h x
  | budgets => exact Budget.register.loadVetted_congr format h x
  | procurements => exact Procurement.register.loadVetted_congr format h x
  | disbursements => exact Disbursement.load_congr format h x
  | delegations => exact Delegation.register.loadVettedPaired_congr format h x

/-- **What loading a section takes and writes.**  The book was never used.  The batch writes the
last id, nothing that comes later in the batch writes there, and if no id was ever given out then
there is nothing else in it. -/
theorem exists_of_load {b : Book} {format : AddressFormat} {store : Store} {x : b.Extract}
    {batch : Batch} (h : b.load format store x = .ok ((), batch)) :
    b.register.isEmpty store = .ok true ∧
      ∃ front back, batch = front ++ b.register.setLast (b.countOf x) ++ back ∧
        (∀ e ∈ back, [b.register.counter] ≠ e.key) ∧
        (b.countOf x = 0 → front = [] ∧ back = []) := by
  cases b with
  | scorecards =>
    obtain ⟨unused, -, -, ids, rfl⟩ := (Register.loadVettedPaired_eq_ok_iff rfl).1 h
    refine ⟨unused, _, _, rfl, Register.counter_ne_indexing (by decide) _, fun none => ?_⟩
    have nil := Section.records_eq_nil ids none
    exact ⟨by rw [nil]; rfl, by rw [nil]; rfl⟩
  | budgets =>
    obtain ⟨unused, -, ids, rfl⟩ := Register.loadVetted_eq_ok_iff.1 h
    refine ⟨unused, _, [], (List.append_nil _).symm, by simp, fun none => ?_⟩
    have nil := Section.records_eq_nil ids none
    exact ⟨by rw [nil]; rfl, rfl⟩
  | procurements =>
    obtain ⟨unused, -, ids, rfl⟩ := Register.loadVetted_eq_ok_iff.1 h
    refine ⟨unused, _, [], (List.append_nil _).symm, by simp, fun none => ?_⟩
    have nil := Section.records_eq_nil ids none
    exact ⟨by rw [nil]; rfl, rfl⟩
  | disbursements =>
    obtain ⟨unused, -, ids, sums, hsums, rfl⟩ := Disbursement.load_eq_ok_iff.1 h
    refine ⟨unused, _, _, rfl, Disbursement.counter_ne_tallying sums, fun none => ?_⟩
    have nil := Section.records_eq_nil ids none
    exact ⟨by rw [nil]; rfl, Disbursement.tallying_eq_nil nil hsums⟩
  | delegations =>
    obtain ⟨unused, -, -, ids, rfl⟩ := (Register.loadVettedPaired_eq_ok_iff rfl).1 h
    refine ⟨unused, _, _, rfl, Register.counter_ne_indexing (by decide) _, fun none => ?_⟩
    have nil := Section.records_eq_nil ids none
    exact ⟨by rw [nil]; rfl, by rw [nil]; rfl⟩

end Book

end PublicFunds
