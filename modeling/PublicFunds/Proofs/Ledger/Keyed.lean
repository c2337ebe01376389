import Mathlib.Control.Monad.Basic
import Mathlib.Data.List.Infix
import PublicFunds.Proofs.Ledger.Reproduction
import PublicFunds.Proofs.Register.Keyed

/-!
# Scorecards and delegations are maps with two sorts of keys

The two books with an index look from outside like maps, after every history in which no part of a
pair is too long for its length to be stored.  Their indexes are never out of step with the records,
whatever ids and pairs come with scorecards and delegations, and also after documents have been
loaded, whose records do not come with an index.

* `Operation.pairs`, `Ledger.Event.Short`: the pairs that a history brings along.
* `Book.Filed`: a book whose index fits its records.
* `Ledger.keyed_history`: what the two books look like, and what rating and delegating does to them.
-/

namespace PublicFunds

/-! ## The pairs that come with an operation -/

/-- The pairs of the records that come with an operation. -/
def Operation.pairs : Operation → List PairKey
  | .rate card => [Paired.pair card]
  | .delegate d => [Paired.pair d]
  | .loadBook b x => (b.recordsOf x).filterMap b.pair?
  | _ => []

/-- Whatever an event asks for comes with short pairs. -/
def Ledger.Event.Short (e : Event) : Prop := ∀ op, e.Asks op → ∀ p ∈ op.pairs, p.Short

theorem Ledger.Event.short_operate {op : Operation} (h : ∀ p ∈ op.pairs, p.Short) :
    Event.Short (.step (.operate op)) := by
  intro op' asked
  cases asked
  exact h

/-! ## Books -/

namespace Book

/-- The entries of a store are those of a book whose index fits its records, if it has one. -/
def Filed : Book → AddressFormat → Entries → Prop
  | .scorecards => Scorecard.register.Filed 3
  | .delegations => Delegation.register.Filed 3
  | _ => fun _ _ => True

theorem filed_empty (b : Book) (format : AddressFormat) : b.Filed format .empty := by
  cases b with
  | scorecards => exact Scorecard.register.filed_empty 3 format
  | budgets => trivial
  | procurements => trivial
  | disbursements => trivial
  | delegations => exact Delegation.register.filed_empty 3 format

/-- The index of a book fits its records after an operation that comes with short pairs. -/
theorem Filed.plan {policy : Policy} {sources : Sources} {store : Store} {op : Operation}
    (h : op.book.Filed policy.addresses store.entries)
    (within : store.entries.Within (Bytes.reach 8)) (short : ∀ p ∈ op.pairs, p.Short)
    {answer : Outcome} {batch : Batch}
    (planned : op.plan policy sources store = .ok (answer, batch)) :
    op.book.Filed policy.addresses (store.entries.apply batch) := by
  cases op with
  | rate card =>
    obtain ⟨id, entered⟩ := Operation.answering_eq_ok planned
    refine Register.Filed.enter h Scorecard.hasIndex within (Scorecard.spares _) ?_ entered
    exact short (Paired.pair card) (List.mem_singleton.2 rfl)
  | delegate d =>
    obtain ⟨id, entered⟩ := Operation.answering_eq_ok planned
    refine Register.Filed.enter h Delegation.hasIndex within (Delegation.spares _ true) ?_ entered
    exact short (Paired.pair d) (List.mem_singleton.2 rfl)
  | deactivate id =>
    obtain ⟨d, entered⟩ := Operation.answering_eq_ok planned
    obtain ⟨d, found, rfl | rfl⟩ := Delegation.deactivate_eq_ok entered
    · exact h
    · exact Register.Filed.replace h Delegation.hasIndex within (Delegation.spares _ false) found
  | loadBook b x =>
    obtain ⟨⟨⟩, loaded⟩ := Operation.answering_eq_ok
      (show Operation.answering (b.load policy.addresses store x) (fun () => .done) = _
        from planned)
    cases b with
    | scorecards =>
      refine Register.Filed.load h Scorecard.hasIndex (fun y hy => ?_) loaded
      exact short _ (List.mem_filterMap.2 ⟨y, hy, rfl⟩)
    | delegations =>
      refine Register.Filed.load h Delegation.hasIndex (fun y hy => ?_) loaded
      exact short _ (List.mem_filterMap.2 ⟨y, hy, rfl⟩)
    | budgets => trivial
    | procurements => trivial
    | disbursements => trivial
  | enterBudget _ => trivial
  | advanceBudget _ _ => trivial
  | endorseBudget _ _ _ => trivial
  | enterProcurement _ => trivial
  | advanceProcurement _ _ => trivial
  | endorseProcurement _ _ _ => trivial
  | enterDisbursement _ => trivial
  | advanceDisbursement _ _ => trivial
  | endorseDisbursement _ _ _ => trivial

end Book

namespace Ledger

/-- The index of every book fits its records. -/
def Filed (ledger : Ledger) : Prop :=
  ∀ b : Book, b.Filed ledger.policy.addresses (ledger.store b).entries

/-- Indexes fit after every history with short pairs. -/
theorem Blank.filed_history {start : Ledger} (blank : start.Blank) {events : List Event}
    (within : ∀ front, front <+: events → (start.history front).Within (Bytes.reach 8))
    (short : ∀ e ∈ events, e.Short) : (start.history events).Filed := by
  unfold Filed
  rw [policy_history]
  refine entries_history (P := fun b => b.Filed start.policy.addresses) (fun b => ?_)
    fun front e happens op asked _ _ _ planned _ filed => ?_
  · rw [blank b]
    exact b.filed_empty _
  · have before := within front ((List.prefix_append front [e]).trans happens) op.book
    exact filed.plan before (short e (happens.subset (by simp)) op asked) planned

/-- A record that has been entered under its pair in a book whose index fits is seen there, and
everything else is as it was. -/
theorem upserts_of_enter {ρ : Type} [Record ρ] [Vetted ρ] [Paired ρ] [FaithfulRecord ρ]
    [VettedApart ρ] {r : Register ρ} {region : UInt8} {format : AddressFormat}
    {before after : Store} (filed : r.Filed region format before.entries)
    (placed : r.HasIndex region) (within : before.entries.Within (Bytes.reach 8))
    (within' : after.entries.Within (Bytes.reach 8)) {settled : ρ → ρ}
    (spares : Register.Spares format settled) {x : ρ} (short : (Paired.pair x).Short)
    {id : RecordId} {batch : Batch} (planned : r.enter format before x settled = .ok (id, batch))
    (written : after.entries = before.entries.apply batch) :
    r.Upserts before.mended after.mended (settled x) id := by
  obtain ⟨c, filed⟩ := filed
  obtain ⟨y, c', rfl, upserted, filed'⟩ := filed.enter placed within spares short planned
  rw [← written] at filed'
  have mended : r.FiledAs region format before.mended.entries c := filed
  have mended' : r.FiledAs region format after.mended.entries c' := filed'
  rw [← spares.pair_eq] at short
  exact mended.upserts mended' placed.index upserted short within before.healthy_mended within'
    after.healthy_mended

namespace Filed

variable {ledger after : Ledger} {sources : Sources} {id : RecordId}

/-- What the two books with an index look like. -/
theorem keyedMap (h : ledger.Filed) (within : ledger.Within (Bytes.reach 8)) :
    (∃ cards, Scorecard.register.KeyedMap 3 ledger.scorecards.mended cards) ∧
      ∃ ds, Delegation.register.KeyedMap 3 ledger.delegations.mended ds := by
  obtain ⟨c, cards⟩ := h .scorecards
  obtain ⟨c', ds⟩ := h .delegations
  have cards : Scorecard.register.FiledAs 3 ledger.policy.addresses
    ledger.scorecards.mended.entries c := cards
  have ds : Delegation.register.FiledAs 3 ledger.policy.addresses
    ledger.delegations.mended.entries c' := ds
  exact ⟨⟨_, cards.keyedMap rfl (within .scorecards) (Store.healthy_mended _)⟩,
    ⟨_, ds.keyedMap rfl (within .delegations) (Store.healthy_mended _)⟩⟩

/-- What is seen of rating a subject. -/
theorem rate (h : ledger.Filed) (within : ledger.Within (Bytes.reach 8))
    (within' : after.Within (Bytes.reach 8)) {card : Scorecard} (short : (Paired.pair card).Short)
    (done : ledger.performWith sources (.rate card) = (.ok (.entered id), after)) :
    Scorecard.register.Upserts ledger.scorecards.mended after.scorecards.mended card id := by
  obtain ⟨batch, planned, written⟩ := performWith_ok (congrArg Prod.fst done)
  rw [done] at written
  obtain ⟨_, entered, ⟨⟩⟩ := Operation.answering_eq_ok_iff.1 planned
  exact upserts_of_enter (h .scorecards) Scorecard.hasIndex (within .scorecards)
    (within' .scorecards) (Scorecard.spares _) short entered written

/-- What is seen of delegating a vote. -/
theorem delegate (h : ledger.Filed) (within : ledger.Within (Bytes.reach 8))
    (within' : after.Within (Bytes.reach 8)) {d : Delegation} (short : (Paired.pair d).Short)
    (done : ledger.performWith sources (.delegate d) = (.ok (.entered id), after)) :
    Delegation.register.Upserts ledger.delegations.mended after.delegations.mended
      { d with active := true } id := by
  obtain ⟨batch, planned, written⟩ := performWith_ok (congrArg Prod.fst done)
  rw [done] at written
  obtain ⟨_, entered, ⟨⟩⟩ := Operation.answering_eq_ok_iff.1 planned
  have written' : after.delegations.entries = ledger.delegations.entries.apply batch := written
  exact upserts_of_enter (h .delegations) Delegation.hasIndex (within .delegations)
    (within' .delegations) (Delegation.spares _ true) short entered written'

end Filed

/-- **Scorecards and delegations are maps with two sorts of keys.**  A ledger started unused, and
nothing that happened to it came with a pair that is too long.  Then each of the two books, once
nothing goes wrong in its store any more, looks like a map from ids and from pairs to records.  And
whenever a subject is rated or a vote is delegated, this puts the record, a delegation active, where
its pair is, else where its id is, else under a new id, and leaves everything else as it was. -/
theorem keyed_history {start : Ledger} (blank : start.Blank) {events : List Event}
    (within : ∀ front, front <+: events → (start.history front).Within (Bytes.reach 8))
    (short : ∀ e ∈ events, e.Short) :
    (∃ cards, Scorecard.register.KeyedMap 3 (start.history events).scorecards.mended cards) ∧
      (∃ ds, Delegation.register.KeyedMap 3 (start.history events).delegations.mended ds) ∧
      (∀ sources card id after, (start.history events).performWith sources (.rate card) =
          (.ok (.entered id), after) → (Paired.pair card).Short → after.Within (Bytes.reach 8) →
        Scorecard.register.Upserts (start.history events).scorecards.mended after.scorecards.mended
          card id) ∧
      ∀ sources d id after, (start.history events).performWith sources (.delegate d) =
          (.ok (.entered id), after) → (Paired.pair d).Short → after.Within (Bytes.reach 8) →
        Delegation.register.Upserts (start.history events).delegations.mended
          after.delegations.mended { d with active := true } id := by
  have filed := blank.filed_history within short
  have now := within events List.prefix_rfl
  obtain ⟨cards, delegations⟩ := filed.keyedMap now
  exact ⟨cards, delegations, fun _ _ _ _ done shortly later => filed.rate now later shortly done,
    fun _ _ _ _ done shortly later => filed.delegate now later shortly done⟩

/-- An operation has answered that a record was entered under some id. -/
def enteredAs (id : RecordId) : Except LedgerError Outcome → Bool
  | .ok (.entered id') => id' == id
  | _ => false

theorem eq_of_enteredAs {id : RecordId} {answer : Except LedgerError Outcome}
    (h : enteredAs id answer = true) : answer = .ok (.entered id) := by
  unfold enteredAs at h
  split at h
  · rw [beq_iff_eq.1 h]
  · cases h

theorem within_officersRated {front : List Event}
    (happened : front <+: officersRated.map Event.step) :
    ((inMemory oneOfficer).history front).Within (Bytes.reach 8) := by
  have within : ∀ front ∈ (officersRated.map Event.step).inits,
      ((inMemory oneOfficer).history front).Within (Bytes.reach 8) := by decide +kernel
  exact within front ((List.mem_inits _ _).2 happened)

theorem short_officersRated : ∀ e ∈ officersRated.map Event.step, e.Short := by
  have operations : ∀ s ∈ officersRated, ∃ op, s = .operate op ∧ ∀ p ∈ op.pairs, p.Short := by
    simp only [officersRated, List.forall_mem_cons, Step.operate.injEq, exists_eq_left',
      List.not_mem_nil, false_implies, implies_true, and_true]
    decide +kernel
  intro e he
  obtain ⟨s, hs, rfl⟩ := List.mem_map.1 he
  obtain ⟨op, rfl, shortly⟩ := operations s hs
  exact Event.short_operate shortly

/-- A scorecard for the third officer, whose name is spelled in another way, and which comes with
the id of the first. -/
def thirdOfficerAgain : Scorecard := ⟨1, " xCC", "Honesty", 70, 1, "", "xaa"⟩

/-- After two officers were rated and one scorecard was given to a third, there are the scorecards
of the first and the third.  The new scorecard takes over the id of the third officer. -/
theorem keyed_officersRated :
    (∃ cards, Scorecard.register.KeyedMap 3
        ((inMemory oneOfficer).history (officersRated.map .step)).scorecards.mended cards ∧
      cards.map (fun card => (card.id, card.subject)) = [(1, "xaa"), (2, "xcc")]) ∧
    Scorecard.register.Upserts
      ((inMemory oneOfficer).history (officersRated.map .step)).scorecards.mended
      (((inMemory oneOfficer).history (officersRated.map .step)).perform
        (.rate thirdOfficerAgain)).2.scorecards.mended thirdOfficerAgain 2 := by
  have later : (((inMemory oneOfficer).history (officersRated.map .step)).perform
      (.rate thirdOfficerAgain)).2.Within (Bytes.reach 8) := by decide +kernel
  have records : (Scorecard.register.all
      ((inMemory oneOfficer).history (officersRated.map .step)).scorecards.mended).map
        (·.map fun card => (card.id, card.subject)) = .ok [(1, "xaa"), (2, "xcc")] := by
    decide +kernel
  have entered : (((inMemory oneOfficer).history (officersRated.map .step)).perform
      (.rate thirdOfficerAgain)).1 = .ok (.entered 2) := eq_of_enteredAs (by decide +kernel)
  obtain ⟨⟨cards, seen⟩, -, rated, -⟩ := @keyed_history _ (blank_inMemory oneOfficer)
    (officersRated.map .step) (fun front happens => within_officersRated happens)
    short_officersRated
  rw [seen.records] at records
  have pair : (Paired.pair thirdOfficerAgain).Short := by decide +kernel
  generalize (inMemory oneOfficer).history (officersRated.map .step) = ledger at *
  exact ⟨⟨cards, seen, Except.ok.inj records⟩,
    rated _ thirdOfficerAgain 2 _ (Prod.ext entered rfl) pair later⟩

end Ledger

end PublicFunds
