import PublicFunds.Proofs.Ledger.Keyed
import PublicFunds.Proofs.Ledger.Numbering
import PublicFunds.Proofs.Register.Slot

/-!
# Operations change little

An operation writes to the store of its own book and to no other, and there it changes a few entries
only, which can be said in advance.  What is entered gets a place that was free and raises the last
id; a disbursement also changes the total of its procurement; a step, an approval and the end of a
delegation change one record; and rating and delegating change one record and at most two index
entries.  All other entries keep their values, byte for byte.

That no other entry shares a key with one of these takes that the places of a book have different
keys.  For index entries this takes that pairs are short.

* `Book.keyOf`, `Book.eq_of_keyOf`: the keys of the places of a book, which are all different.
* `Operation.Reaches`: the places that an operation may change.
* `Operation.onlyAt`: its batch has edits at these only.
* `Ledger.Local`, `Ledger.local_history`: what that comes to, after every history.
-/

namespace PublicFunds

open Register

/-! ## The places of a book -/

namespace Book

/-- The key of a place in the store of a book, if the book has such a place. -/
def keyOf (b : Book) : Slot → Option Bytes
  | .total procurement =>
    if b = .disbursements then some (Layout.idKey Disbursement.totals.region procurement) else none
  | s => b.register.keyOf s

/-- The places of the register of a book are places of the book. -/
theorem keyOf_of_register {b : Book} {s : Slot} {key : Bytes}
    (h : b.register.keyOf s = some key) : b.keyOf s = some key := by
  cases s with
  | record id => exact h
  | last => exact h
  | pair p => exact h
  | total procurement => cases h

/-- Edits at some places of a register are edits at places of its book. -/
theorem onlyAt_of_register {b : Book} {batch : Batch} {reached wider : Slot → Prop}
    (h : Batch.OnlyAt b.register.keyOf reached batch) (more : ∀ s, reached s → wider s) :
    Batch.OnlyAt b.keyOf wider batch :=
  fun e he => (h e he).imp fun s hs => ⟨more s hs.1, keyOf_of_register hs.2⟩

/-- The first byte of the keys of places of one sort. -/
def lead : Slot → UInt8
  | .record _ => 1
  | .last => 2
  | .pair _ => 3
  | .total _ => 3

/-- The first byte of a key tells what sort of place it is the key of. -/
theorem head?_of_keyOf {b : Book} {s : Slot} {key : Bytes} (h : b.keyOf s = some key) :
    key.head? = some (lead s) := by
  cases s with
  | record id =>
    cases h
    cases b <;> rfl
  | last =>
    cases h
    cases b <;> rfl
  | pair p =>
    cases b <;> cases h <;> rfl
  | total procurement =>
    cases b <;> cases h
    rfl

/-- **Different places have different keys.** -/
theorem eq_of_keyOf {b : Book} {s t : Slot} {key : Bytes} (hs : b.keyOf s = some key)
    (ht : b.keyOf t = some key) (short : s.Short) (short' : t.Short) : s = t := by
  have heads := (head?_of_keyOf hs).symm.trans (head?_of_keyOf ht)
  cases s with
  | record id =>
    cases t with
    | record id' =>
      exact congrArg Slot.record (Layout.idKey_inj.1 (Option.some.inj (hs.trans ht.symm)))
    | last => cases heads
    | pair p => cases heads
    | total procurement => cases heads
  | last =>
    cases t with
    | last => rfl
    | record id => cases heads
    | pair p => cases heads
    | total procurement => cases heads
  | pair p =>
    cases t with
    | record id => cases heads
    | last => cases heads
    | pair q =>
      obtain ⟨region, -, rfl⟩ := Option.map_eq_some_iff.1 hs
      obtain ⟨region', -, same⟩ := Option.map_eq_some_iff.1 ht
      exact congrArg Slot.pair (PairKey.eq_of_bytes_eq short' short (List.cons.inj same).2).symm
    | total procurement =>
      -- the book with totals has no index
      cases b <;> cases hs <;> cases ht
  | total procurement =>
    cases t with
    | record id => cases heads
    | last => cases heads
    | pair p =>
      cases b <;> cases hs
      cases ht
    | total procurement' =>
      cases b <;> cases hs
      exact congrArg Slot.total (Layout.idKey_inj.1 (Option.some.inj ht)).symm

end Book

/-! ## The places that an operation reaches -/

namespace Operation

/-- **The places that an operation may change** in the store of its book, if it gives an answer. -/
def Reaches (store : Store) (answer : Outcome) : Operation → Slot → Prop
  | .rate card, s => ∃ id, answer = .entered id ∧ Scorecard.register.Entering store card id s
  | .enterBudget _, s => ∃ id, answer = .entered id ∧ Slot.New id s
  | .advanceBudget id _, s => s = .record id
  | .endorseBudget id _ _, s => s = .record id
  | .enterProcurement _, s => ∃ id, answer = .entered id ∧ Slot.New id s
  | .advanceProcurement id _, s => s = .record id
  | .endorseProcurement id _ _, s => s = .record id
  | .enterDisbursement d, s => (∃ id, answer = .entered id ∧ Slot.New id s) ∨ s = .total d.procurement
  | .advanceDisbursement id _, s => s = .record id
  | .endorseDisbursement id _ _, s => s = .record id
  | .delegate d, s => ∃ id, answer = .entered id ∧ Delegation.register.Entering store d id s
  | .deactivate id, s => s = .record id
  | .loadBook _ _, _ => True

variable {policy : Policy} {sources : Sources} {store : Store} {op : Operation} {answer : Outcome}
  {batch : Batch}

/-- **An operation has edits at the places that it reaches only**, if it does not load anything. -/
theorem onlyAt (orderly : op.book.Orderly policy.addresses store.entries)
    (within : store.entries.Within (Bytes.reach 8)) (loads : ¬ op.Loads)
    (planned : op.plan policy sources store = .ok (answer, batch)) :
    Batch.OnlyAt op.book.keyOf (op.Reaches store.mended answer) batch := by
  obtain ⟨c, keeps⟩ := orderly.keeps
  cases op with
  | rate card =>
    obtain ⟨id, rated, rfl⟩ := answering_eq_ok_iff.1 planned
    have placed := Register.Orderly.onlyAt_enter orderly rfl (Scorecard.spares _) rated
    exact Book.onlyAt_of_register (b := .scorecards) placed fun s reached => ⟨id, rfl, reached⟩
  | enterBudget b =>
    obtain ⟨id, entered, rfl⟩ := answering_eq_ok_iff.1 planned
    obtain ⟨y, rfl, -, added⟩ := Budget.enter_eq_ok entered
    exact Book.onlyAt_of_register (b := .budgets) (onlyAt_add rfl added) fun s reached =>
      ⟨_, rfl, reached⟩
  | advanceBudget id next =>
    have held : Budget.register.Keeps policy.addresses store.entries c := keeps
    obtain ⟨y, advanced, -⟩ := answering_eq_ok_iff.1 planned
    exact Book.onlyAt_of_register (b := .budgets) (onlyAt_advance held within advanced)
      fun s here => here
  | endorseBudget id approval contract =>
    have held : Budget.register.Keeps policy.addresses store.entries c := keeps
    obtain ⟨y, endorsed, -⟩ := answering_eq_ok_iff.1 planned
    exact Book.onlyAt_of_register (b := .budgets) (onlyAt_endorse held within endorsed)
      fun s here => here
  | enterProcurement p =>
    obtain ⟨id, entered, rfl⟩ := answering_eq_ok_iff.1 planned
    obtain ⟨b, y, rfl, -, -, added⟩ := Procurement.enter_eq_ok entered
    exact Book.onlyAt_of_register (b := .procurements) (onlyAt_add rfl added) fun s reached =>
      ⟨_, rfl, reached⟩
  | advanceProcurement id next =>
    have held : Procurement.register.Keeps policy.addresses store.entries c := keeps
    obtain ⟨y, advanced, -⟩ := answering_eq_ok_iff.1 planned
    exact Book.onlyAt_of_register (b := .procurements) (onlyAt_advance held within advanced)
      fun s here => here
  | endorseProcurement id approval contract =>
    have held : Procurement.register.Keeps policy.addresses store.entries c := keeps
    obtain ⟨y, endorsed, -⟩ := answering_eq_ok_iff.1 planned
    exact Book.onlyAt_of_register (b := .procurements) (onlyAt_endorse held within endorsed)
      fun s here => here
  | enterDisbursement d =>
    obtain ⟨id, entered, rfl⟩ := answering_eq_ok_iff.1 planned
    obtain ⟨p, disbursed, total, y, writing, rfl, -, -, -, -, -, added, rfl⟩ :=
      Disbursement.enter_eq_ok entered
    obtain ⟨n, -, -, rfl, -⟩ := add_eq_ok rfl added
    refine .append ?_ (.single (.inr rfl) rfl)
    exact Book.onlyAt_of_register (b := .disbursements) (onlyAt_add rfl added) fun s reached =>
      .inl ⟨_, rfl, reached⟩
  | advanceDisbursement id next =>
    have held : Disbursement.register.Keeps policy.addresses store.entries c := keeps
    obtain ⟨y, advanced, -⟩ := answering_eq_ok_iff.1 planned
    exact Book.onlyAt_of_register (b := .disbursements) (onlyAt_advance held within advanced)
      fun s here => here
  | endorseDisbursement id approval contract =>
    have held : Disbursement.register.Keeps policy.addresses store.entries c := keeps
    obtain ⟨y, endorsed, -⟩ := answering_eq_ok_iff.1 planned
    exact Book.onlyAt_of_register (b := .disbursements) (onlyAt_endorse held within endorsed)
      fun s here => here
  | delegate d =>
    obtain ⟨id, entered, rfl⟩ := answering_eq_ok_iff.1 planned
    have placed := Register.Orderly.onlyAt_enter orderly rfl (Delegation.spares _ true) entered
    exact Book.onlyAt_of_register (b := .delegations) placed fun s reached => ⟨id, rfl, reached⟩
  | deactivate id =>
    obtain ⟨d, ended, -⟩ := answering_eq_ok_iff.1 planned
    obtain ⟨d, found, rfl | rfl⟩ := Delegation.deactivate_eq_ok ended
    · exact .nil
    · exact .single (congrArg Slot.record (keeps.id_of_find within found)) rfl
  | loadBook b x => exact absurd trivial loads

/-- The places that an operation reaches are short if the pairs are that come with it. -/
theorem short_of_reaches (filed : op.book.Filed policy.addresses store.entries)
    (within : store.entries.Within (Bytes.reach 8)) (loads : ¬ op.Loads)
    (short : ∀ p ∈ op.pairs, p.Short) {s : Slot} (reached : op.Reaches store answer s) :
    s.Short := by
  cases op with
  | rate card =>
    obtain ⟨id, -, entering⟩ := reached
    exact Register.Filed.short_of_entering filed within
      (short _ (List.mem_singleton.2 rfl)) entering
  | delegate d =>
    obtain ⟨id, -, entering⟩ := reached
    exact Register.Filed.short_of_entering filed within
      (short _ (List.mem_singleton.2 rfl)) entering
  | loadBook b x => exact absurd trivial loads
  | enterBudget b =>
    obtain ⟨id, -, new⟩ := reached
    exact new.short
  | enterProcurement p =>
    obtain ⟨id, -, new⟩ := reached
    exact new.short
  | enterDisbursement d =>
    rcases reached with ⟨id, -, new⟩ | rfl
    · exact new.short
    · trivial
  | _ =>
    cases reached
    trivial

end Operation

namespace Ledger

/-- **What an operation changes**, other than one that loads an export, if it succeeds. -/
structure Local (ledger : Ledger) (sources : Sources) (op : Operation) (answer : Outcome) :
    Prop where
  /-- The stores of the other books are what they were. -/
  others : ∀ b, b ≠ op.book → (ledger.performWith sources op).2.store b = ledger.store b
  /-- In the store of its own book, no entry changes but those of the places that it reaches. -/
  entries : ∀ key, (∀ s, op.Reaches (ledger.store op.book).mended answer s →
      op.book.keyOf s ≠ some key) →
    ((ledger.performWith sources op).2.store op.book).entries.get? key =
      (ledger.store op.book).entries.get? key
  /-- So every place that it does not reach is as it was. -/
  places : ∀ s, s.Short → ¬ op.Reaches (ledger.store op.book).mended answer s →
    ∀ key, op.book.keyOf s = some key →
      ((ledger.performWith sources op).2.store op.book).entries.get? key =
        (ledger.store op.book).entries.get? key
  /-- What needs an id gets the next one.  There was no record under it, and now there is. -/
  entered : op.NeedsId (ledger.store op.book).mended → ∃ id last : RecordId,
    answer = .entered id ∧ id.toNat = last.toNat + 1 ∧
      op.book.register.last (ledger.store op.book).mended = .ok last ∧
      op.book.register.last ((ledger.performWith sources op).2.store op.book).mended = .ok id ∧
      ∀ key, op.book.keyOf (.record id) = some key →
        (ledger.store op.book).entries.get? key = none ∧
        (((ledger.performWith sources op).2.store op.book).entries.get? key).isSome = true
  /-- A disbursement is added to the total of its procurement. -/
  paid : ∀ d, op = .enterDisbursement d → ∃ before after : Amount,
    Disbursement.total ledger.disbursements.mended d.procurement = .ok before ∧
      after.toNat = before.toNat + d.amount.toNat ∧ d.amount ≠ .zero ∧
      ∀ key, op.book.keyOf (.total d.procurement) = some key →
        ((ledger.performWith sources op).2.store op.book).entries.get? key =
          some (Disbursement.totals.form.encode after)

/-- What an operation that succeeds changes in a ledger in order whose indexes fit. -/
theorem Orderly.isLocal {ledger : Ledger} (orderly : ledger.Orderly) (filed : ledger.Filed)
    (within : ledger.Within (Bytes.reach 8)) {sources : Sources} {op : Operation}
    {answer : Outcome} (performed : (ledger.performWith sources op).1 = .ok answer)
    (loads : ¬ op.Loads) (short : ∀ p ∈ op.pairs, p.Short) : ledger.Local sources op answer := by
  obtain ⟨batch, planned, written⟩ := performWith_ok performed
  have onlyAt := Operation.onlyAt (orderly op.book) (within op.book) loads planned
  have entries : ∀ key, (∀ s, op.Reaches (ledger.store op.book).mended answer s →
      op.book.keyOf s ≠ some key) →
      ((ledger.performWith sources op).2.store op.book).entries.get? key =
        (ledger.store op.book).entries.get? key := by
    intro key elsewhere
    rw [written]
    exact onlyAt.get?_apply elsewhere _
  obtain ⟨c, keeps⟩ := (orderly op.book).keeps
  have counts := orderly.counts within sources keeps
  exact {
    others := fun b other => ledger.store_performWith_of_ne sources other
    entries := entries
    places := by
      intro s shortly outside key here
      refine entries key fun t reached there => outside ?_
      have mended : op.book.Filed ledger.policy.addresses (ledger.store op.book).mended.entries :=
        filed op.book
      have shortly' := Operation.short_of_reaches mended (within op.book) loads short reached
      rwa [Book.eq_of_keyOf here there shortly shortly']
    entered := by
      intro needs
      obtain ⟨id, answered, next, free, stored, counted⟩ := counts.entered answer performed needs
      have mended : op.book.register.Keeps ledger.policy.addresses
        (ledger.store op.book).mended.entries c := keeps
      refine ⟨id, c.last, answered, next, mended.last (Store.healthy_mended _), counted, ?_⟩
      rintro _ ⟨⟩
      constructor
      · rw [mended.find (within op.book) (Store.healthy_mended _)] at free
        rw [keeps.held.value, Except.ok.inj free]
        rfl
      · unfold Register.contains asking at stored
        rw [(Store.healthy_mended _).contains] at stored
        exact Except.ok.inj stored
    paid := by
      rintro d rfl
      obtain ⟨id, entered⟩ := Operation.answering_eq_ok planned
      obtain ⟨p, before, total, y, writing, -, checked, -, paid, sum, -, added, rfl⟩ :=
        Disbursement.enter_eq_ok entered
      obtain ⟨n, -, -, rfl, -⟩ := add_eq_ok rfl added
      obtain ⟨_, t, held, -⟩ := orderly .disbursements
      rw [held.total_eq_ok (within .disbursements) paid] at sum
      have mended : Disbursement.Keeps ledger.policy.addresses
        ledger.disbursements.mended.entries _ t := held
      refine ⟨_, total, mended.total_eq (within .disbursements) (Store.healthy_mended _) _,
        sum.symm, Disbursement.amount_ne_zero (d := Governed.fresh d) checked, ?_⟩
      rintro _ ⟨⟩
      rw [written, Entries.apply_append]
      exact OrderedMap.get?_insert_self .. }

/-- **Operations change little.**  A ledger started unused, and nothing that happened to it came
with a pair that is too long.  Then every operation that succeeds, other than one that loads an
export, leaves the stores of the other books alone, and in the store of its own it changes at most
the entries of the places that it reaches. -/
theorem local_history {start : Ledger} (blank : start.Blank) {events : List Event}
    (within : ∀ front, front <+: events → (start.history front).Within (Bytes.reach 8))
    (short : ∀ e ∈ events, e.Short) {sources : Sources} {op : Operation} {answer : Outcome}
    (performed : ((start.history events).performWith sources op).1 = .ok answer)
    (loads : ¬ op.Loads) (pairs : ∀ p ∈ op.pairs, p.Short) :
    (start.history events).Local sources op answer :=
  (blank.orderly_history within).isLocal (blank.filed_history within short)
    (within events List.prefix_rfl) performed loads pairs

/-- The scorecard of the first officer is given to a fourth one. -/
def fourthOfficer : Scorecard := ⟨1, "xdd", "honesty", 60, 1, "", "xaa"⟩

/-- When the scorecard of the first officer is given to a fourth one, that of the third keeps its
bytes. -/
theorem local_officersRated :
    let ledger := (inMemory oneOfficer).history (officersRated.map .step)
    let key := Layout.idKey Scorecard.register.records 2
    ledger.Local ledger.sources (.rate fourthOfficer) (.entered 1) ∧
      (ledger.perform (.rate fourthOfficer)).2.scorecards.entries.get? key =
        ledger.scorecards.entries.get? key := by
  intro ledger key
  have performed : (ledger.perform (.rate fourthOfficer)).1 = .ok (.entered 1) :=
    eq_of_enteredAs (by decide +kernel)
  have short : ∀ p ∈ Operation.pairs (.rate fourthOfficer), p.Short := by decide +kernel
  have changes : ledger.Local ledger.sources (.rate fourthOfficer) (.entered 1) :=
    @local_history _ (blank_inMemory oneOfficer) (officersRated.map .step)
      (fun front happens => within_officersRated happens) short_officersRated ledger.sources
      (.rate fourthOfficer) (.entered 1) performed not_false short
  clear_value ledger
  refine ⟨changes, changes.places (.record 2) trivial ?_ key rfl⟩
  rintro ⟨id, answered, entering⟩
  cases entering
  exact absurd (Outcome.entered.inj answered) (by decide)

end Ledger

end PublicFunds
