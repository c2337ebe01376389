import Mathlib.Data.List.Infix
import PublicFunds.Proofs.Approval.Signing
import PublicFunds.Proofs.Ledger.GatedStep
import PublicFunds.Proofs.Ledger.Writing

/-!
# Approvals outlast the contract they were given for

An officer approves a record under its contract, and when the record takes a gated step, the
approvals that it has are counted.  In between another officer may bring another contract.  So a
record may take a gated step under a contract that only one of its officers has approved.

What does hold is that approvals come from nowhere else.  As long as nothing is loaded, every
approval on a record was recorded by a request to approve that record, and the contract that the
record had then is still there unless a later request brought another one.

* `Ledger.signings`: the approvals of a record that were recorded, in the order of time.
* `Operation.step`, `Ledger.Orderly.step_undergo`: what one operation and one event do to the
  endorsement of a record.
* `Ledger.traced_history`: where the approvals on a record come from.
* `Ledger.not_forall_bound`: they need not be bound to the contract that the record has.
-/

namespace PublicFunds

open Register

/-! ## Approvals that were recorded -/

/-- The endorsement of a record in a book.  There is none where records have no lifecycle. -/
def Book.endorsement : (b : Book) → b.Item → Endorsement
  | .scorecards => fun _ => .none
  | .budgets => fun x : Budget => Governed.endorsement x
  | .procurements => fun x : Procurement => Governed.endorsement x
  | .disbursements => fun x : Disbursement => Governed.endorsement x
  | .delegations => fun _ => .none

/-- The approval that an operation asks for, with the id of the record and the contract that comes
with the approval. -/
def Operation.request : Operation → Option (RecordId × Approval × String)
  | .endorseBudget id approval contract => some (id, approval, contract)
  | .endorseProcurement id approval contract => some (id, approval, contract)
  | .endorseDisbursement id approval contract => some (id, approval, contract)
  | _ => none

/-- The approval of a record that an operation on its book has recorded, as it was answered. -/
def Operation.signing (op : Operation) (id : RecordId) :
    Except LedgerError Outcome → Option Signing
  | .ok (.changed b x) =>
    match op.request with
    | some (id', approval, contract) =>
      if id' = id then some ⟨approval, contract, (b.endorsement x).contract⟩ else none
    | none => none
  | _ => none

namespace Ledger

/-- The approval of a record that an event has recorded. -/
def signing (ledger : Ledger) (b : Book) (id : RecordId) : Event → Option Signing
  | .step (.operate op) => if op.book = b then op.signing id (ledger.perform op).1 else none
  | .step (.load _) => none
  | .operation sources op =>
    if op.book = b then op.signing id (ledger.performWith sources op).1 else none
  | .faults .. => none

/-- The approvals of a record that were recorded during a history, in the order of time. -/
def signings (ledger : Ledger) (b : Book) (id : RecordId) : List Event → List Signing
  | [] => []
  | e :: events => (ledger.signing b id e).toList ++ (ledger.undergo e).signings b id events

theorem signings_concat (ledger : Ledger) (b : Book) (id : RecordId) (events : List Event)
    (e : Event) : ledger.signings b id (events ++ [e]) =
      ledger.signings b id events ++ ((ledger.history events).signing b id e).toList := by
  induction events generalizing ledger with
  | nil => simp [signings]
  | cons first events ih => simp only [List.cons_append, signings, history_cons, ih,
      List.append_assoc]

end Ledger

/-! ## What one operation does -/

namespace Register

variable {ρ : Type} [Record ρ] {endorsement : ρ → Endorsement}

/-- What is seen of the endorsement of a record. -/
def Contents.seen (endorsement : ρ → Endorsement) (c : Contents ρ) (id : RecordId) :
    Option Endorsement :=
  (c.records.get? id).map endorsement

/-- What one change of a register does to the endorsements of its records. -/
def Contents.Steps (endorsement : ρ → Endorsement) (happened : RecordId → Option Signing)
    (c c' : Contents ρ) : Prop :=
  ∀ id, Endorsement.Step (happened id) (c.seen endorsement id) (c'.seen endorsement id)

namespace Contents

variable {c : Contents ρ} {y : ρ}

omit [Record ρ] in
/-- Contents that are left alone. -/
theorem Steps.refl (c : Contents ρ) : c.Steps endorsement (fun _ => none) c :=
  fun _ => .kept _

theorem seen_put_self : (c.put y).seen endorsement (Record.id y) = some (endorsement y) := by
  rw [seen, put, OrderedMap.get?_insert_self, Option.map_some]

theorem seen_put_of_ne {id : RecordId} (other : id ≠ Record.id y) :
    (c.put y).seen endorsement id = c.seen endorsement id := by
  rw [seen, put, OrderedMap.get?_insert_of_ne _ other, seen]

/-- A record that is replaced by one with the same endorsement. -/
theorem Steps.put_of_eq {x : ρ} (found : c.records.get? (Record.id y) = some x)
    (same : endorsement y = endorsement x) : c.Steps endorsement (fun _ => none) (c.put y) := by
  intro id
  by_cases here : id = Record.id y
  · subst here
    rw [seen_put_self, seen, found, Option.map_some, same]
    exact .kept _
  · rw [seen_put_of_ne here]
    exact .kept _

/-- A record on which an approval is recorded. -/
theorem Steps.put_signed {x : ρ} (found : c.records.get? (Record.id y) = some x) {s : Signing}
    (under : s.under = if Text.isBlank s.brought then (endorsement x).contract else s.brought)
    (signed : endorsement y = s.sign (endorsement x)) :
    c.Steps endorsement (fun id => if Record.id y = id then some s else none) (c.put y) := by
  intro id
  show Endorsement.Step (if Record.id y = id then some s else none) _ _
  by_cases here : Record.id y = id
  · subst here
    rw [if_pos rfl, seen_put_self, seen, found, Option.map_some, signed]
    exact .signed s _ under
  · rw [if_neg here, seen_put_of_ne (Ne.symm here)]
    exact .kept _

/-- A record that is entered without approvals. -/
theorem Steps.put_of_none (free : c.records.get? (Record.id y) = none)
    (bare : (endorsement y).approvals = []) (last : RecordId) :
    c.Steps endorsement (fun _ => none) (Contents.put { c with last } y) := by
  intro id
  by_cases here : id = Record.id y
  · subst here
    have new : endorsement y = ⟨(endorsement y).contract, []⟩ := by rw [← bare]
    rw [seen_put_self, seen, free, Option.map_none, new]
    exact .entered _
  · rw [seen_put_of_ne here]
    exact .kept _

/-- Records without endorsements. -/
theorem Writes.steps {again : ρ → ρ → Prop} {new : Option RecordId} {c' : Contents ρ}
    (h : c.Writes again new c') : c.Steps (fun _ => .none) (fun _ => none) c' := by
  intro id
  have stays := h.outlives.stays id
  unfold seen
  cases before : c.records.get? id with
  | none =>
    cases c'.records.get? id with
    | none => exact .kept _
    | some y => exact .entered ""
  | some x =>
    obtain ⟨y, after, -⟩ := stays x before
    rw [after]
    exact .kept _

end Contents

namespace Keeps

variable [Vetted ρ] {σ : Type} [Lifecycle σ] [DecidableEq σ] [Governed ρ σ] [FaithfulRecord ρ]
  {r : Register ρ} {store : Store} {c : Contents ρ} {policy : Policy} {scores : ScoreSource}
  {id : RecordId} {answer : ρ} {batch : Batch}

omit [DecidableEq σ] [FaithfulRecord ρ] in
/-- Entering a record drops the approvals that it brings along. -/
theorem add_steps [VettedApart ρ] (h : r.Keeps policy.addresses store.entries c)
    (apart : r.records ≠ r.counter) {x y : ρ} (bare : (Governed.endorsement x).approvals = [])
    (new : Record.id x = 0) (checked : Vetted.checkFields policy.addresses x = .ok ())
    (planned : r.add store x = .ok (y, batch)) :
    ∃ c', r.Keeps policy.addresses (store.entries.apply batch) c' ∧
      c.Steps Governed.endorsement (fun _ => none) c' := by
  obtain ⟨up, rfl, -, keeps⟩ := h.add apart new checked planned
  refine ⟨_, keeps, .put_of_none ?_ ?_ _⟩
  · rw [Record.id_withId]
    exact h.get?_eq_none up
  · rw [Governed.endorsement_withId]
    exact bare

/-- Taking a record to its next status leaves its endorsement alone. -/
theorem advance_steps (h : r.Keeps policy.addresses store.entries c)
    (within : store.entries.Within (Bytes.reach 8)) {next : σ}
    (planned : r.advance policy store scores id next = .ok (answer, batch)) :
    ∃ c', r.Keeps policy.addresses (store.entries.apply batch) c' ∧
      c.Steps Governed.endorsement (fun _ => none) c' := by
  obtain ⟨x, found, ⟨-, -, rfl⟩ | ⟨-, -, -, checked, -, rfl⟩⟩ := advance_eq_ok planned
  · exact ⟨c, h, .refl c⟩
  · have stored := (h.find_eq_ok within found).symm
    obtain ⟨own, nonzero, given, -⟩ := h.valid id x stored
    rw [← own, ← Governed.id_withStatus x next] at nonzero given stored
    exact ⟨_, h.entry nonzero given (Vetted.of_check checked).2,
      .put_of_eq stored (Governed.endorsement_withStatus x next)⟩

omit [DecidableEq σ] in
/-- An approval that is recorded. -/
theorem endorse_steps (h : r.Keeps policy.addresses store.entries c)
    (within : store.entries.Within (Bytes.reach 8)) {approval : Approval} {contract : String}
    (planned : r.endorse policy store scores id approval contract = .ok (answer, batch)) :
    ∃ c', r.Keeps policy.addresses (store.entries.apply batch) c' ∧
      c.Steps Governed.endorsement (fun j => if id = j then
        some ⟨approval, contract, (Governed.endorsement answer).contract⟩ else none) c' := by
  obtain ⟨x, e, found, approved, checked, revised, rfl⟩ := endorse_eq_ok planned
  have stored := (h.find_eq_ok within found).symm
  obtain ⟨own, nonzero, given, -⟩ := h.valid id x stored
  have same : Record.id answer = id := by rw [revised, Governed.id_withEndorsement, own]
  have signed : Governed.endorsement answer = e := by
    rw [revised, Governed.endorsement_withEndorsement]
  rw [← revised] at checked ⊢
  subst same
  refine ⟨_, h.entry nonzero given (Vetted.of_check checked).2, ?_⟩
  obtain rfl := Policy.approve_eq_ok approved
  rw [signed]
  exact .put_signed stored rfl signed

end Keeps

end Register

namespace Operation

/-- **What one operation does to endorsements.**  It is an approval that was asked for and is
recorded as the answer says, or no approval. -/
theorem step {policy : Policy} {sources : Sources} {store : Store} {op : Operation}
    {answer : Outcome} {batch : Batch} (orderly : op.book.Orderly policy.addresses store.entries)
    (within : store.entries.Within (Bytes.reach 8)) {c : Contents op.book.Item}
    (keeps : op.book.register.Keeps policy.addresses store.entries c) (loads : ¬ op.Loads)
    (planned : op.plan policy sources store = .ok (answer, batch)) :
    ∃ c', op.book.register.Keeps policy.addresses (store.entries.apply batch) c' ∧
      c.Steps op.book.endorsement (fun id => op.signing id (.ok answer)) c' := by
  cases op with
  | rate card =>
    obtain ⟨new, c', writes, -, -, after⟩ :=
      Operation.writes orderly within keeps loads planned
    obtain ⟨id, -, rfl⟩ := answering_eq_ok_iff.1 planned
    exact ⟨c', after, writes.steps⟩
  | enterBudget b =>
    have held : Budget.register.Keeps policy.addresses store.entries c := keeps
    obtain ⟨id, entered, rfl⟩ := answering_eq_ok_iff.1 planned
    obtain ⟨y, rfl, checked, added⟩ := Budget.enter_eq_ok entered
    exact held.add_steps (by decide) rfl rfl checked added
  | advanceBudget id next =>
    have held : Budget.register.Keeps policy.addresses store.entries c := keeps
    obtain ⟨y, advanced, rfl⟩ := answering_eq_ok_iff.1 planned
    exact held.advance_steps within advanced
  | endorseBudget id approval contract =>
    have held : Budget.register.Keeps policy.addresses store.entries c := keeps
    obtain ⟨y, endorsed, rfl⟩ := answering_eq_ok_iff.1 planned
    exact held.endorse_steps within endorsed
  | enterProcurement p =>
    have held : Procurement.register.Keeps policy.addresses store.entries c := keeps
    obtain ⟨id, entered, rfl⟩ := answering_eq_ok_iff.1 planned
    obtain ⟨b, y, rfl, checked, -, added⟩ := Procurement.enter_eq_ok entered
    exact held.add_steps (by decide) rfl rfl checked added
  | advanceProcurement id next =>
    have held : Procurement.register.Keeps policy.addresses store.entries c := keeps
    obtain ⟨y, advanced, rfl⟩ := answering_eq_ok_iff.1 planned
    exact held.advance_steps within advanced
  | endorseProcurement id approval contract =>
    have held : Procurement.register.Keeps policy.addresses store.entries c := keeps
    obtain ⟨y, endorsed, rfl⟩ := answering_eq_ok_iff.1 planned
    exact held.endorse_steps within endorsed
  | enterDisbursement d =>
    have held : Disbursement.register.Keeps policy.addresses store.entries c := keeps
    obtain ⟨id, entered, rfl⟩ := answering_eq_ok_iff.1 planned
    obtain ⟨-, -, total, y, writing, rfl, checked, -, -, -, -, added, rfl⟩ :=
      Disbursement.enter_eq_ok entered
    obtain ⟨c', after, steps⟩ := held.add_steps (by decide) rfl rfl checked added
    rw [Entries.apply_append]
    exact ⟨c', after.aside (Disbursement.inside_total _ total) (by decide) (by decide), steps⟩
  | advanceDisbursement id next =>
    have held : Disbursement.register.Keeps policy.addresses store.entries c := keeps
    obtain ⟨y, advanced, rfl⟩ := answering_eq_ok_iff.1 planned
    exact held.advance_steps within advanced
  | endorseDisbursement id approval contract =>
    have held : Disbursement.register.Keeps policy.addresses store.entries c := keeps
    obtain ⟨y, endorsed, rfl⟩ := answering_eq_ok_iff.1 planned
    exact held.endorse_steps within endorsed
  | delegate d =>
    obtain ⟨new, c', writes, -, -, after⟩ :=
      Operation.writes orderly within keeps loads planned
    obtain ⟨id, -, rfl⟩ := answering_eq_ok_iff.1 planned
    exact ⟨c', after, writes.steps⟩
  | deactivate id =>
    obtain ⟨new, c', writes, -, -, after⟩ :=
      Operation.writes orderly within keeps loads planned
    obtain ⟨d, -, rfl⟩ := answering_eq_ok_iff.1 planned
    exact ⟨c', after, writes.steps⟩
  | loadBook b x => exact absurd trivial loads

end Operation

/-! ## What one event does -/

namespace Ledger

/-- An event that loads nothing. -/
def Event.Loadless (e : Event) : Prop := ∀ op, e.Asks op → ¬ op.Loads

theorem Event.loadless_operate {op : Operation} (loads : ¬ op.Loads) :
    Event.Loadless (.step (.operate op)) := by
  rintro _ ⟨⟩
  exact loads

/-- What an operation on any book does to the endorsements in one book. -/
theorem Orderly.step_performWith {ledger : Ledger} (orderly : ledger.Orderly)
    (within : ledger.Within (Bytes.reach 8)) (sources : Sources) {op : Operation}
    (loads : ¬ op.Loads) {b : Book} {c : Contents b.Item}
    (keeps : b.register.Keeps ledger.policy.addresses (ledger.store b).entries c) :
    ∃ c', b.register.Keeps ledger.policy.addresses
        ((ledger.performWith sources op).2.store b).entries c' ∧
      c.Steps b.endorsement (fun id =>
        if op.book = b then op.signing id (ledger.performWith sources op).1 else none) c' := by
  by_cases here : op.book = b
  · subst here
    simp only [if_true]
    cases answered : (ledger.performWith sources op).1 with
    | error e =>
      rw [(performWith_error answered op.book).1]
      exact ⟨c, keeps, .refl c⟩
    | ok answer =>
      obtain ⟨batch, planned, written⟩ := performWith_ok answered
      rw [written]
      exact Operation.step (orderly op.book) (within op.book) keeps loads planned
  · rw [store_performWith_of_ne _ _ (Ne.symm here)]
    simp only [if_neg here]
    exact ⟨c, keeps, .refl c⟩

/-- **What an event does to the endorsements in a book** that loads nothing. -/
theorem Orderly.step_undergo {ledger : Ledger} (orderly : ledger.Orderly)
    (within : ledger.Within (Bytes.reach 8)) {e : Event} (loads : e.Loadless) {b : Book}
    {c : Contents b.Item}
    (keeps : b.register.Keeps ledger.policy.addresses (ledger.store b).entries c) :
    ∃ c', b.register.Keeps ledger.policy.addresses ((ledger.undergo e).store b).entries c' ∧
      c.Steps b.endorsement (fun id => ledger.signing b id e) c' := by
  cases e with
  | step s =>
    cases s with
    | operate op =>
      exact orderly.step_performWith within ledger.sources (loads op (.operate op)) keeps
    | load g => exact absurd trivial (loads _ (.load g b))
  | operation sources op =>
    exact orderly.step_performWith within sources (loads op (.operation sources op)) keeps
  | faults b' f =>
    have same : ((ledger.undergo (.faults b' f)).store b).entries = (ledger.store b).entries := by
      by_cases here : b = b'
      · rw [here, Ledger.undergo, store_withStore_self]
      · rw [Ledger.undergo, store_withStore_of_ne _ here]
    rw [same]
    exact ⟨c, keeps, .refl c⟩

/-! ## Over time -/

/-- The endorsements of all records can be traced, over a history that loads nothing. -/
theorem Blank.traced {start : Ledger} (blank : start.Blank) {events : List Event}
    (within : ∀ front, front <+: events → (start.history front).Within (Bytes.reach 8))
    (loads : ∀ e ∈ events, e.Loadless) (b : Book) :
    ∃ c, b.register.Keeps start.policy.addresses ((start.history events).store b).entries c ∧
      ∀ id, ∀ e ∈ c.seen b.endorsement id, e.Traced (start.signings b id events) := by
  induction events using List.reverseRecOn with
  | nil =>
    rw [history_nil, blank b]
    exact ⟨.empty, b.register.keeps_empty _, fun id e seen => nomatch seen⟩
  | append_singleton front e ih =>
    have earlier : front <+: front ++ [e] := List.prefix_append front [e]
    obtain ⟨c, keeps, traced⟩ := ih (fun before happened => within before (happened.trans earlier))
      fun e' he' => loads e' (List.mem_append_left _ he')
    have orderly : (start.history front).Orderly :=
      blank.orderly_history fun before happened => within before (happened.trans earlier)
    rw [← start.policy_history front] at keeps ⊢
    obtain ⟨c', keeps', steps⟩ := orderly.step_undergo (within front earlier)
      (loads e (List.mem_append_right _ (List.mem_singleton.2 rfl))) keeps
    rw [history_append]
    refine ⟨c', keeps', fun id => ?_⟩
    rw [signings_concat]
    exact Endorsement.Traced.step (traced id) (steps id)

/-- **Where the approvals on a record come from.**  After any history of a ledger that started
unused, in which nothing was loaded, every approval on a stored record was recorded by a request to
approve this record, and none that was recorded later conflicts with it.  The contract that the
record had right after is the one that it has now, unless later requests brought others; then it has
the last of these. -/
theorem traced_history {start : Ledger} (blank : start.Blank) {events : List Event}
    (within : ∀ front, front <+: events → (start.history front).Within (Bytes.reach 8))
    (loads : ∀ e ∈ events, e.Loadless) {b : Book} {id : RecordId} {x : b.Item}
    (found : b.register.find ((start.history events).store b) id = .ok (some x)) :
    (b.endorsement x).Traced (start.signings b id events) := by
  obtain ⟨c, keeps, traced⟩ := blank.traced within loads b
  have stored := keeps.find_eq_ok (within events List.prefix_rfl b) found
  refine traced id _ ?_
  rw [Contents.seen, ← stored]
  rfl

/-- A budget that two officers have approved, the second of them under another contract. -/
def roadsResigned : List Event := [
  .step (.operate (.rate ⟨0, "xaa", "honesty", 90, 1, "", "xaa"⟩)),
  .step (.operate (.rate ⟨0, "xbb", "honesty", 80, 1, "", "xaa"⟩)),
  .step (.operate (.enterBudget { approvedRoads with id := 0 })),
  .step (.operate (.endorseBudget 1 ⟨"xAA", "treasurer", 1, "first"⟩ "")),
  .step (.operate (.endorseBudget 1 ⟨"xbb", "auditor", 2, "second"⟩ "other"))]

/-- The budget as it is stored then. -/
def resignedRoads : Budget :=
  { approvedRoads with endorsement := { approvedRoads.endorsement with contract := "other" } }

theorem operate_roadsResigned :
    ∀ e ∈ roadsResigned, ∃ op : Operation, e = .step (.operate op) ∧ ¬ op.Loads := by
  simp [roadsResigned, Operation.Loads]

theorem within_roadsResigned (front : List Event) (happens : front <+: roadsResigned) :
    ((inMemory twoOfficers.policy).history front).Within (Bytes.reach 4) := by
  have short : ∀ front ∈ roadsResigned.inits,
      ((inMemory twoOfficers.policy).history front).Within (Bytes.reach 4) := by decide +kernel
  exact short front ((List.mem_inits _ _).2 happens)

theorem find_resignedRoads :
    Budget.register.find ((inMemory twoOfficers.policy).history roadsResigned).budgets 1 =
      .ok (some resignedRoads) := by
  decide +kernel

/-- Both approvals are on the budget, and the first was recorded under another contract. -/
theorem traced_roadsResigned :
    (inMemory twoOfficers.policy).signings .budgets 1 roadsResigned =
        [⟨⟨"xAA", "treasurer", 1, "first"⟩, "", "contract"⟩,
          ⟨⟨"xbb", "auditor", 2, "second"⟩, "other", "other"⟩] ∧
      resignedRoads.endorsement.Traced
        ((inMemory twoOfficers.policy).signings .budgets 1 roadsResigned) := by
  have loads : ∀ e ∈ roadsResigned, e.Loadless := by
    intro e he
    obtain ⟨op, rfl, loads⟩ := operate_roadsResigned e he
    exact Event.loadless_operate loads
  exact ⟨by decide +kernel, @traced_history _ (blank_inMemory twoOfficers.policy) roadsResigned
    (fun front happens b => (within_roadsResigned front happens b).mono (by decide)) loads .budgets
    1 resignedRoads find_resignedRoads⟩

/-- Whenever a stored record is taken to another status and that status is gated, its endorsement
has some property.  `after` is the store after a record has been asked to take a step. -/
def AtGatedSteps {ρ σ : Type} [Record ρ] [Lifecycle σ] [Governed ρ σ] (r : Register ρ)
    (P : RecordId → Endorsement → Prop) (store : Store) (after : RecordId → σ → Store) : Prop :=
  ∀ id next record changed, r.find store id = .ok (some record) →
    r.find (after id next) id = .ok (some changed) →
    Governed.status record ≠ next → Governed.status changed = next →
    Lifecycle.gated next = true → P id (Governed.endorsement record)

/-- **The contract may change under approvals.**  It is not true that, whatever is asked of a ledger
that starts unused, every approval on a record that takes a gated step was recorded under the
contract that the record has at this step. -/
theorem not_forall_bound :
    ¬ ∀ (config : Configuration) (start : Ledger) (events : List Event), config.check = .ok () →
      start.policy = config.policy → start.Blank →
      (∀ front, front <+: events → (start.history front).Within (Bytes.reach 4)) →
      (∀ e ∈ events, ∃ op : Operation, e = .step (.operate op) ∧ ¬ op.Loads) →
      let ledger := start.history events
      AtGatedSteps Budget.register (fun id => Endorsement.Bound (start.signings .budgets id events))
          ledger.budgets (fun id next => (ledger.perform (.advanceBudget id next)).2.budgets) ∧
        AtGatedSteps Procurement.register
          (fun id => Endorsement.Bound (start.signings .procurements id events))
          ledger.procurements
          (fun id next => (ledger.perform (.advanceProcurement id next)).2.procurements) ∧
        AtGatedSteps Disbursement.register
          (fun id => Endorsement.Bound (start.signings .disbursements id events))
          ledger.disbursements
          (fun id next => (ledger.perform (.advanceDisbursement id next)).2.disbursements) := by
  intro bound
  obtain ⟨budgets, -, -⟩ := bound twoOfficers (inMemory twoOfficers.policy) roadsResigned rfl rfl
    (blank_inMemory _) within_roadsResigned operate_roadsResigned
  have after : Budget.register.find (((inMemory twoOfficers.policy).history roadsResigned).perform
      (.advanceBudget 1 .legislated)).2.budgets 1
      = .ok (some { resignedRoads with status := .legislated }) := by decide +kernel
  have first := budgets 1 .legislated _ _ find_resignedRoads after (by decide) rfl rfl
  revert first
  decide +kernel

end Ledger

end PublicFunds
