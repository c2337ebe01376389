import Mathlib.Data.List.Infix
import PublicFunds.Proofs.Ledger.Coverage
import PublicFunds.Proofs.Ledger.Writing
import PublicFunds.Proofs.Register.Numbering

/-!
# Ids are given out one after the other

In each book ids count up, and none is given out twice or forgotten.  A record that needs an id gets
the one after the last, whatever happened to the ledger before, and there is no record under this id
or under any after it.  An operation that enters nothing new leaves the count alone, and so does one
that is refused.  When all ids have been given out, what needs one is refused.

An id may also be brought along, by a rating or a delegation that replaces an earlier one.  That is
no way around the count, since such an id must be in use.

* `Book.Numbered`: the ids of a book, as every question shows them.
* `Ledger.Counts`: what operations do to the count.
* `Ledger.numbered_history`: ids after every history.
-/

namespace PublicFunds

open Register

/-- Some records and the last id that was given out, as a book shows and exports them. -/
def Book.Numbered (b : Book) (store : Store) (records : List b.Item) (last : RecordId) : Prop :=
  b.register.Numbered store records last ∧
    ∃ x, b.extract store = .ok x ∧ b.recordsOf x = records ∧ b.countOf x = last

/-- A book in order is numbered. -/
theorem Book.Orderly.numbered {b : Book} {format : AddressFormat} {store : Store}
    (h : b.Orderly format store.entries) (within : store.entries.Within (Bytes.reach 8))
    (healthy : store.Healthy) {c : Contents b.Item}
    (keeps : b.register.Keeps format store.entries c) :
    b.Numbered store c.records.values c.last := by
  have shown := keeps.numbered within healthy
  refine ⟨shown, ?_⟩
  cases b with
  | scorecards => exact ⟨_, shown.exported, rfl, rfl⟩
  | budgets => exact ⟨_, shown.exported, rfl, rfl⟩
  | procurements => exact ⟨_, shown.exported, rfl, rfl⟩
  | disbursements =>
    obtain ⟨c', t, held, -⟩ := h
    have records : Disbursement.register.extract store = .ok ⟨c.records.values, c.last⟩ :=
      shown.exported
    have totals := Tally.entries_eq held.totals Disbursement.faithful_totals within healthy
    refine ⟨⟨c.records.values, c.last, t.toList.map fun entry => ⟨entry.1, entry.2⟩⟩, ?_, rfl, rfl⟩
    show Disbursement.extract store = _
    unfold Disbursement.extract
    simp only [records, totals]
  | delegations => exact ⟨_, shown.exported, rfl, rfl⟩

/-- The next id is one more than the last. -/
theorem RecordId.toNat_next {last : RecordId} (up : last < last + 1) :
    (last + 1).toNat = last.toNat + 1 := by
  have one : (1 : UInt64).toNat = 1 := rfl
  have bound := last.toNat_lt
  rw [UInt64.lt_iff_toNat_lt, UInt64.toNat_add, one] at up
  rw [UInt64.toNat_add, one]
  omega

namespace Ledger

/-- **What operations do to the count** of a book, whose last id is given. -/
structure Counts (ledger : Ledger) (sources : Sources) (op : Operation) (last : RecordId) :
    Prop where
  /-- If the operation is refused, no store has changed. -/
  refused : ∀ e, (ledger.performWith sources op).1 = .error e →
    ∀ b, ((ledger.performWith sources op).2.store b).entries = (ledger.store b).entries
  /-- What needs an id gets the next one, and then this is the last.  No record had it before, and
  one has it now. -/
  entered : ∀ answer, (ledger.performWith sources op).1 = .ok answer →
    op.NeedsId (ledger.store op.book).mended →
      ∃ id : RecordId, answer = .entered id ∧ id.toNat = last.toNat + 1 ∧
        op.book.register.find (ledger.store op.book).mended id = .ok none ∧
        op.book.register.contains ((ledger.performWith sources op).2.store op.book).mended id =
          .ok true ∧
        op.book.register.last ((ledger.performWith sources op).2.store op.book).mended = .ok id
  /-- What needs none and loads nothing leaves the count alone. -/
  spared : ∀ answer, (ledger.performWith sources op).1 = .ok answer →
    ¬ op.NeedsId (ledger.store op.book).mended → ¬ op.Loads →
      op.book.register.last ((ledger.performWith sources op).2.store op.book).mended = .ok last
  /-- An export is only loaded while no id has been given out. -/
  loaded : ∀ answer, (ledger.performWith sources op).1 = .ok answer → op.Loads → last = 0
  /-- When all ids have been given out, what needs one is refused. -/
  exhausted : op.NeedsId (ledger.store op.book).mended → last.toNat + 1 = UInt64.size →
    ∃ e, (ledger.performWith sources op).1 = .error e

/-- Every operation on a ledger in order respects the count of its book. -/
theorem Orderly.counts {ledger : Ledger} (orderly : ledger.Orderly)
    (within : ledger.Within (Bytes.reach 8)) (sources : Sources) {op : Operation}
    {c : Contents op.book.Item}
    (keeps : op.book.register.Keeps ledger.policy.addresses (ledger.store op.book).entries c) :
    ledger.Counts sources op c.last := by
  have healthy := (ledger.store op.book).healthy_mended
  have mended : op.book.register.Keeps ledger.policy.addresses
      (ledger.store op.book).mended.entries c := keeps
  -- an operation that loads nothing is one write
  have writes : ∀ answer, (ledger.performWith sources op).1 = .ok answer → ¬ op.Loads →
      ∃ new c', c.Writes op.book.Again new c' ∧
        (new.isSome = true ↔ op.NeedsId (ledger.store op.book).mended) ∧
        (∀ id ∈ new, answer = .entered id) ∧
        op.book.register.Keeps ledger.policy.addresses
          ((ledger.performWith sources op).2.store op.book).mended.entries c' := by
    intro answer performed loads
    obtain ⟨batch, planned, written⟩ := performWith_ok performed
    obtain ⟨new, c', writes, needs, answered, after⟩ :=
      Operation.writes (orderly op.book) (within op.book) keeps loads planned
    rw [← written] at after
    exact ⟨new, c', writes, needs, answered, after⟩
  have loadless : op.NeedsId (ledger.store op.book).mended → ¬ op.Loads := by
    cases op <;> simp [Operation.NeedsId, Operation.Loads]
  have entered : ∀ answer, (ledger.performWith sources op).1 = .ok answer →
      op.NeedsId (ledger.store op.book).mended → ∃ c', c.last < c.last + 1 ∧
        c'.last = c.last + 1 ∧ answer = .entered (c.last + 1) ∧
        c.records.get? (c.last + 1) = none ∧ (c'.records.get? (c.last + 1)).isSome = true ∧
        op.book.register.Keeps ledger.policy.addresses
          ((ledger.performWith sources op).2.store op.book).mended.entries c' := by
    intro answer performed needs
    obtain ⟨new, c', write, given, answered, after⟩ := writes answer performed (loadless needs)
    obtain ⟨id, rfl⟩ := Option.isSome_iff_exists.1 (given.2 needs)
    obtain ⟨rfl, up, free, stored⟩ := write.new_eq rfl
    exact ⟨c', up, write.last_eq, answered _ rfl, free, stored, after⟩
  exact {
    refused := fun e failed b => (performWith_error failed b).1
    entered := by
      intro answer performed needs
      obtain ⟨c', up, last, answered, free, stored, after⟩ := entered answer performed needs
      refine ⟨c.last + 1, answered, RecordId.toNat_next up, ?_, ?_, ?_⟩
      · rw [mended.find (within op.book) healthy, free]
      · rw [after.contains (Store.healthy_mended _), stored]
      · rw [after.last (Store.healthy_mended _), last]
    spared := by
      intro answer performed needless loads
      obtain ⟨new, c', write, given, -, after⟩ := writes answer performed loads
      have none : new = none := Option.not_isSome_iff_eq_none.1 (mt given.1 needless)
      rw [after.last (Store.healthy_mended _), write.last_eq, none]
      rfl
    loaded := by
      intro answer performed loads
      obtain ⟨batch, planned, -⟩ := performWith_ok performed
      obtain ⟨-, x, loaded⟩ := (Operation.plan_eq_ok planned).resolve_right fun other =>
        other.1 loads
      rw [keeps.eq_empty_of_isEmpty (Book.exists_of_load loaded).1]
      rfl
    exhausted := by
      intro needs full
      cases performed : (ledger.performWith sources op).1 with
      | error e => exact ⟨e, rfl⟩
      | ok answer =>
        obtain ⟨c', up, -⟩ := entered answer performed needs
        have next := RecordId.toNat_next up
        have bound := (c.last + 1).toNat_lt
        rw [next, full] at bound
        exact absurd bound (Nat.lt_irrefl _) }

/-- **Ids are given out one after the other.**  After every history of a ledger that started unused,
each book shows its records once each and in the order of their ids, which lie between one and the
last id.  No id that was ever given out before is above the last one, and every record that was ever
stored still has its id in use.  So the next id, which is what any operation that needs one gets, is
above all of them. -/
theorem numbered_history {start : Ledger} (blank : start.Blank) {events : List Event}
    (within : ∀ front, front <+: events → (start.history front).Within (Bytes.reach 8))
    (b : Book) :
    ∃ records last, b.Numbered ((start.history events).store b).mended records last ∧
      (∀ front, front <+: events →
        ∃ earlier last', b.Numbered ((start.history front).store b).mended earlier last' ∧
          last' ≤ last ∧ ∀ x ∈ earlier, ∃ y ∈ records, Record.id y = Record.id x) ∧
      ∀ sources op, op.book = b → (start.history events).Counts sources op last := by
  have orderly : ∀ front, front <+: events → (start.history front).Orderly :=
    fun front happened =>
      blank.orderly_history fun before earlier => within before (earlier.trans happened)
  have numbered : ∀ front, front <+: events → ∃ c : Contents b.Item,
      b.register.Keeps start.policy.addresses ((start.history front).store b).entries c ∧
        b.Numbered ((start.history front).store b).mended c.records.values c.last := by
    intro front happened
    have order := orderly front happened b
    obtain ⟨c, keeps⟩ := order.keeps
    rw [policy_history] at keeps
    have mended : b.Orderly (start.history front).policy.addresses
      ((start.history front).store b).mended.entries := order
    rw [policy_history] at mended
    exact ⟨c, keeps, mended.numbered (within front happened b) (Store.healthy_mended _) keeps⟩
  obtain ⟨c, keeps, shown⟩ := numbered events List.prefix_rfl
  refine ⟨_, _, shown, fun front happened => ?_, ?_⟩
  · obtain ⟨c', keeps', shown'⟩ := numbered front happened
    obtain ⟨c'', keeps'', outlives⟩ := blank.outlives happened within keeps'
    cases keeps''.unique keeps (within events List.prefix_rfl b)
    refine ⟨_, _, shown', outlives.last_le, fun x hx => ?_⟩
    obtain ⟨y, found, -⟩ := outlives.stays _ x (keeps'.valid.own.mem_values.1 hx)
    obtain ⟨hy, own⟩ := keeps.valid.own.mem_of_get? found
    exact ⟨y, hy, own⟩
  · rintro sources op rfl
    rw [← start.policy_history events] at keeps
    exact (orderly events List.prefix_rfl).counts (within events List.prefix_rfl) sources keeps

/-- Two disbursements have been entered and one was refused, so the last id is two. -/
theorem numbered_roadsPaid :
    ∃ records, Book.disbursements.Numbered
      (((inMemory shortAddresses).history roadsPaid).store .disbursements).mended records 2 := by
  have short : ∀ front ∈ roadsPaid.inits,
      ((inMemory shortAddresses).history front).Within (Bytes.reach 8) := by decide +kernel
  have counted : Disbursement.register.last
      (((inMemory shortAddresses).history roadsPaid).store .disbursements).mended = .ok 2 := by
    decide +kernel
  obtain ⟨records, last, numbered, -⟩ := @numbered_history _ (blank_inMemory shortAddresses)
    roadsPaid (fun front happens => short front ((List.mem_inits _ _).2 happens)) .disbursements
  cases numbered.1.counted.symm.trans counted
  exact ⟨records, numbered⟩

end Ledger

end PublicFunds
