import PublicFunds.Proofs.Ledger.Loading

/-!
# What can be read

A question to a store may fail, and which questions do is not for the ledger to say.  An export of a
book asks two or three questions, always the same: for all records, for the last id, and for the
disbursed totals.  If it succeeds then these meet no fault, whatever others may do.  As faults are
not changed by writing, the same questions are answered after a change, and as in a store in good
health.

* `Register.Legible`, `Book.Legible`, `Ledger.Legible`: what an export asks meets no fault.
* `Ledger.extract_congr`, `Ledger.verify_congr`: legible ledgers with the same entries are exported
  and checked alike.
* `Ledger.legible_of_extract`: what can be exported is legible.
-/

namespace PublicFunds

namespace Store

variable {α : Type} {store : Store} {query : Query}

/-- A question that meets no fault is answered. -/
theorem ask_of_read (h : store.faults.read query = none) (answer : α) :
    store.ask query answer = .ok answer := by
  rw [ask, h]

/-- A question that is answered met no fault. -/
theorem read_of_ask {answer given : α} (h : store.ask query answer = .ok given) :
    store.faults.read query = none := by
  unfold ask at h
  split at h
  · cases h
  · assumption

end Store

/-! ## Registers -/

namespace Register

variable {ρ : Type} {r : Register ρ} {store : Store}

/-- The questions for all records and for the last id meet no fault. -/
structure Legible (r : Register ρ) (store : Store) : Prop where
  records : store.faults.read (.scan [r.records]) = none
  last : store.faults.read (.value [r.counter]) = none

/-- Going through records to the end shows as many as there are. -/
theorem length_of_visit {records : List (Except RegisterError ρ)} {seen shown : List ρ}
    (h : visit (fun seen record => .yield (record :: seen)) seen records = .ok shown) :
    shown.length = seen.length + records.length := by
  induction records generalizing seen with
  | nil =>
    cases h
    rfl
  | cons record records ih =>
    cases record with
    | error e => cases h
    | ok x =>
      rw [ih h, List.length_cons, List.length_cons]
      omega

/-- All records can be read only if the store shows what is stored for them. -/
theorem scan_of_all [Record ρ] {xs : List ρ} (h : r.all store = .ok xs) :
    ∃ entries, store.scan [r.records] = .ok entries ∧ entries.length = xs.length := by
  unfold all walkList walk each at h
  cases found : store.scan [r.records] with
  | error fault =>
    rw [found] at h
    cases h
  | ok entries =>
    rw [found] at h
    change (visit _ _ (entries.map _)).map List.reverse = _ at h
    cases visited : visit (fun (seen : List ρ) record => .yield (record :: seen)) []
        (entries.map fun entry => read (Record.kind ρ) (Record.form : Form ρ) entry.2) with
    | error e =>
      rw [visited] at h
      cases h
    | ok shown =>
      rw [visited] at h
      cases h
      have length := length_of_visit visited
      rw [List.length_nil, List.length_map, Nat.zero_add] at length
      exact ⟨entries, rfl, by rw [List.length_reverse, length]⟩

theorem extract_eq_ok_iff [Record ρ] {s : Section ρ} :
    r.extract store = .ok s ↔ r.all store = .ok s.records ∧ r.last store = .ok s.count := by
  unfold extract
  cases r.all store with
  | error e => simp
  | ok xs =>
    cases r.last store with
    | error e => simp
    | ok n =>
      obtain ⟨records, count⟩ := s
      simp

/-- A register that can be exported is legible. -/
theorem legible_of_extract [Record ρ] {s : Section ρ} (h : r.extract store = .ok s) :
    r.Legible store := by
  obtain ⟨records, last⟩ := extract_eq_ok_iff.1 h
  obtain ⟨entries, found, -⟩ := scan_of_all records
  refine ⟨Store.read_of_ask found, ?_⟩
  unfold Register.last at last
  split at last
  · cases last
  · next hfind => exact Store.read_of_ask hfind
  · next hfind => exact Store.read_of_ask hfind

section Congruence

variable [Record ρ] {s t : Store} (hs : r.Legible s) (ht : r.Legible t)
  (same : s.entries = t.entries)

include hs ht same

theorem all_congr : r.all s = r.all t := by
  have scan : s.scan [r.records] = t.scan [r.records] := by
    rw [Store.scan, Store.scan, Store.ask_of_read hs.records, Store.ask_of_read ht.records, same]
  rw [all, all, walkList, walkList, walk, walk, each, each, scan]

theorem extract_congr : r.extract s = r.extract t := by
  have find : s.find [r.counter] = t.find [r.counter] := by
    rw [Store.find, Store.find, Store.ask_of_read hs.last, Store.ask_of_read ht.last, same]
  rw [extract, extract, all_congr hs ht same, last, last, find]

end Congruence

end Register

/-! ## Books -/

namespace Book

variable {b : Book} {store s t : Store}

/-- What an export of a book asks meets no fault. -/
structure Legible (b : Book) (store : Store) : Prop where
  register : b.register.Legible store
  totals : b = .disbursements → store.faults.read (.scan [Disbursement.totals.region]) = none

/-- A store in good health is legible. -/
theorem legible_of_healthy (h : store.Healthy) : b.Legible store := by
  unfold Store.Healthy at h
  exact ⟨⟨by rw [h]; rfl, by rw [h]; rfl⟩, fun _ => by rw [h]; rfl⟩

/-- Whether a store is legible depends on its faults. -/
theorem Legible.of_faults (h : b.Legible s) (same : t.faults = s.faults) : b.Legible t :=
  ⟨⟨same ▸ h.register.records, same ▸ h.register.last⟩, fun here => same ▸ h.totals here⟩

theorem entries_congr_totals (hs : Book.disbursements.Legible s)
    (ht : Book.disbursements.Legible t) (same : s.entries = t.entries) :
    Disbursement.totals.entries s = Disbursement.totals.entries t := by
  rw [Tally.entries, Tally.entries, Store.scan, Store.scan, Store.ask_of_read (hs.totals rfl),
    Store.ask_of_read (ht.totals rfl), same]

/-- Legible stores with the same entries are exported alike. -/
theorem extract_congr (hs : b.Legible s) (ht : b.Legible t) (same : s.entries = t.entries) :
    b.extract s = b.extract t := by
  cases b with
  | scorecards => exact Register.extract_congr hs.register ht.register same
  | budgets => exact Register.extract_congr hs.register ht.register same
  | procurements => exact Register.extract_congr hs.register ht.register same
  | disbursements =>
    have section' : Disbursement.register.extract s = Disbursement.register.extract t :=
      Register.extract_congr hs.register ht.register same
    show Disbursement.extract s = Disbursement.extract t
    rw [Disbursement.extract, Disbursement.extract, section', entries_congr_totals hs ht same]
  | delegations => exact Register.extract_congr hs.register ht.register same

/-- A disbursement section consists of that of the register and the totals. -/
theorem extract_of_disbursements {x : DisbursementSection}
    (h : Disbursement.extract store = .ok x) :
    Disbursement.register.extract store = .ok x.toSection ∧
      ∃ entries, Disbursement.totals.entries store = .ok entries := by
  unfold Disbursement.extract at h
  split at h
  · cases h
  · next s hs =>
    split at h
    · cases h
    · next entries hentries =>
      cases h
      exact ⟨hs, entries, hentries⟩

/-- A book that can be exported is legible. -/
theorem legible_of_extract {x : b.Extract} (h : b.extract store = .ok x) : b.Legible store := by
  cases b with
  | scorecards => exact ⟨Register.legible_of_extract h, fun same => absurd same (by decide)⟩
  | budgets => exact ⟨Register.legible_of_extract h, fun same => absurd same (by decide)⟩
  | procurements => exact ⟨Register.legible_of_extract h, fun same => absurd same (by decide)⟩
  | disbursements =>
    obtain ⟨section', entries, found⟩ := extract_of_disbursements h
    refine ⟨Register.legible_of_extract section', fun _ => ?_⟩
    unfold Tally.entries at found
    split at found
    · cases found
    · next hscan => exact Store.read_of_ask hscan
  | delegations => exact ⟨Register.legible_of_extract h, fun same => absurd same (by decide)⟩

end Book

/-- Legible stores of disbursements with the same entries are checked alike. -/
theorem Disbursement.verify_congr {s t : Store} (hs : Book.disbursements.Legible s)
    (ht : Book.disbursements.Legible t) (same : s.entries = t.entries) : verify s = verify t := by
  have all : register.all s = register.all t := Register.all_congr hs.register ht.register same
  rw [verify, verify, all, Book.entries_congr_totals hs ht same]

/-! ## Ledgers -/

namespace Ledger

/-- What an export of each book asks meets no fault. -/
def Legible (ledger : Ledger) : Prop := ∀ b : Book, b.Legible (ledger.store b)

theorem Healthy.legible {ledger : Ledger} (h : ledger.Healthy) : ledger.Legible :=
  fun b => Book.legible_of_healthy (h b)

variable {ledger : Ledger}

/-- The sections of an export are those of the books. -/
theorem extract_of_extract {g : Genesis} (h : ledger.extract = .ok g) (b : Book) :
    b.extract (ledger.store b) = .ok (g.extract b) := by
  have section' : ledger.extractBook b = .ok (g.extract b) := by
    unfold extract at h
    split at h
    · cases h
    split at h
    · cases h
    split at h
    · cases h
    split at h
    · cases h
    split at h
    · cases h
    cases h
    cases b <;> assumption
  unfold extractBook at section'
  cases found : b.extract (ledger.store b) with
  | error e =>
    rw [found] at section'
    cases section'
  | ok x =>
    rw [found] at section'
    cases section'
    rfl

/-- A ledger that can be exported is legible. -/
theorem legible_of_extract {g : Genesis} (h : ledger.extract = .ok g) : ledger.Legible :=
  fun b => Book.legible_of_extract (extract_of_extract h b)

section Congruence

variable {l m : Ledger} (hl : l.Legible) (hm : m.Legible)
  (same : ∀ b, (l.store b).entries = (m.store b).entries)

include hl hm same

/-- Legible ledgers with the same entries are exported alike. -/
theorem extract_congr : l.extract = m.extract := by
  have books : ∀ b, l.extractBook b = m.extractBook b := fun b => by
    rw [extractBook, extractBook, Book.extract_congr (hl b) (hm b) (same b)]
  simp only [extract, books]

theorem verify_congr : l.verify = m.verify := by
  have checked := Disbursement.verify_congr (hl .disbursements) (hm .disbursements)
    (same .disbursements)
  rw [verify, verify]
  exact congrArg (Except.mapError (LedgerError.book .disbursements)) checked

end Congruence

end Ledger

end PublicFunds
