import PublicFunds.Ledger.Operation
import PublicFunds.Proofs.Register.Dialogue

/-!
# What the operations come to

An operation is a dialogue with the store of its book.  With a store that answers as laid down in
advance it comes to its plan, carried out: what it is going to ask is answered by the store as it
is, and what it is going to write is known by then.  So whoever wants to know what an operation does
to a ledger need only look at its plan.

That an operation settles says more, since it says so for every backend: whatever is answered, it
writes one batch at most, and last.

* `Budget.hold_entering`, `Disbursement.hold_entering`, `Book.hold_loading` and others: the
  operations of the books.
* `Operation.hold_dialogue`: an operation comes to its plan.
* `Operation.settles_dialogue`: an operation settles.
-/

namespace PublicFunds

open Register (settles_commit settles_commit_pure)

/-! ## The operations of the books -/

theorem Budget.hold_entering (format : AddressFormat) (store : Store) (b : Budget) :
    Store.backend.hold (entering format b) store = store.carryOut (enter format store b) := by
  rw [entering, Backend.hold_bind, Backend.hold_done, enter]
  cases checkFields format (Governed.fresh b) with
  | error e => rfl
  | ok u =>
    simp only
    rw [Backend.hold_bind, Backend.hold_mapError, Register.hold_askAdd]
    cases register.add store (Governed.fresh b) with
    | error e => rfl
    | ok added => exact Register.hold_commit_pure store added.2 added.1.id

theorem Budget.settles_entering (format : AddressFormat) (b : Budget) :
    (entering format b).Settles :=
  (Dialogue.Asks.done _).bind_settles fun _ =>
    (register.asks_add _).mapError.bind_settles fun _ => settles_commit_pure _ _

theorem Procurement.hold_entering (format : AddressFormat) (store : Store)
    (budgets : BudgetSource) (p : Procurement) :
    Store.backend.hold (entering format budgets p) store =
      store.carryOut (enter format store budgets p) := by
  rw [entering, Backend.hold_bind, Backend.hold_done, enter]
  cases checkFields format (Governed.fresh p) with
  | error e => rfl
  | ok u =>
    simp only
    rw [Backend.hold_bind, Backend.hold_done_mapError]
    cases budgets (Governed.fresh p).budget with
    | error e => rfl
    | ok there =>
      cases there with
      | none => rfl
      | some b =>
        simp only
        rw [Backend.hold_bind, Backend.hold_mapError, Register.hold_askAdd]
        cases register.add store (Governed.fresh p) with
        | error e => rfl
        | ok added => exact Register.hold_commit_pure store added.2 added.1.id

theorem Procurement.settles_entering (format : AddressFormat) (budgets : BudgetSource)
    (p : Procurement) : (entering format budgets p).Settles :=
  (Dialogue.Asks.done _).bind_settles fun _ => (Dialogue.Asks.done _).bind_settles fun there => by
    cases there with
    | none => exact .done _
    | some b =>
      exact (register.asks_add _).mapError.bind_settles fun _ => settles_commit_pure _ _

namespace Disbursement

theorem hold_askTotal (store : Store) (procurement : RecordId) :
    Store.backend.hold (askTotal procurement) store = (total store procurement, store) := by
  rw [askTotal, Backend.hold_bind, Tally.hold_askFind, total]
  cases totals.find store procurement <;> rfl

theorem hold_enteringFor (store : Store) (p : Procurement) (d : Disbursement) :
    Store.backend.hold (enteringFor p d) store = store.carryOut (enterFor store p d) := by
  rw [enteringFor, Backend.hold_bind, Backend.hold_mapError, hold_askTotal, enterFor]
  cases total store d.procurement with
  | error e => rfl
  | ok disbursed =>
    simp only
    cases totalWithin? disbursed d.amount p.amount with
    | none => rfl
    | some total =>
      simp only
      rw [Backend.hold_bind, Backend.hold_mapError, Register.hold_askAdd]
      cases register.add store d with
      | error e => rfl
      | ok added => exact Register.hold_commit_pure store _ added.1.id

theorem settles_enteringFor (p : Procurement) (d : Disbursement) : (enteringFor p d).Settles := by
  have asks : (askTotal d.procurement).Asks := (totals.asks_find _).bind fun _ => .done _
  refine asks.mapError.bind_settles fun disbursed => ?_
  cases totalWithin? disbursed d.amount p.amount with
  | none => exact .done _
  | some total => exact (register.asks_add d).mapError.bind_settles fun _ => settles_commit_pure _ _

theorem hold_entering (format : AddressFormat) (store : Store) (procurements : ProcurementSource)
    (d : Disbursement) :
    Store.backend.hold (entering format procurements d) store =
      store.carryOut (enter format store procurements d) := by
  rw [entering, Backend.hold_bind, Backend.hold_done, enter]
  cases checkFields format (Governed.fresh d) with
  | error e => rfl
  | ok u =>
    simp only
    rw [Backend.hold_bind, Backend.hold_done_mapError]
    cases procurements (Governed.fresh d).procurement with
    | error e => rfl
    | ok there =>
      cases there with
      | none => rfl
      | some p => exact hold_enteringFor store p (Governed.fresh d)

theorem settles_entering (format : AddressFormat) (procurements : ProcurementSource)
    (d : Disbursement) : (entering format procurements d).Settles :=
  (Dialogue.Asks.done _).bind_settles fun _ => (Dialogue.Asks.done _).bind_settles fun there => by
    cases there with
    | none => exact .done _
    | some p => exact settles_enteringFor p _

theorem hold_loading (format : AddressFormat) (store : Store) (x : DisbursementSection) :
    Store.backend.hold (loading format x) store = store.carryOut (load format store x) := by
  rw [loading, Backend.hold_bind, Backend.hold_done, load]
  cases Vetted.checkAll format x.records with
  | error e => rfl
  | ok u =>
    simp only
    rw [Backend.hold_bind, Backend.hold_done_mapError]
    cases x.recompute with
    | error e => rfl
    | ok sums =>
      simp only
      rw [Backend.hold_bind, Backend.hold_mapError, Register.hold_askLoad]
      cases register.load store x.toSection with
      | error e => rfl
      | ok batch => exact Register.hold_commit store _

theorem settles_loading (format : AddressFormat) (x : DisbursementSection) :
    (loading format x).Settles :=
  (Dialogue.Asks.done _).bind_settles fun _ => (Dialogue.Asks.done _).bind_settles fun _ =>
    (register.asks_load _).mapError.bind_settles fun _ => settles_commit _

end Disbursement

namespace Delegation

theorem hold_deactivating (store : Store) (id : RecordId) :
    Store.backend.hold (deactivating id) store = store.carryOut (deactivate store id) := by
  rw [deactivating, Backend.hold_bind, Backend.hold_mapError, Register.hold_askGet, deactivate]
  cases register.get store id with
  | error e => rfl
  | ok d =>
    simp only
    split
    · rw [Backend.hold_bind, Backend.hold_done]
      cases register.stage { d with active := false } with
      | error e => rfl
      | ok batch => exact Register.hold_commit_pure store batch _
    · rfl

theorem settles_deactivating (id : RecordId) : (deactivating id).Settles :=
  (register.asks_get id).mapError.bind_settles fun d => by
    split
    · exact (Dialogue.Asks.done _).bind_settles fun _ => settles_commit_pure _ _
    · exact .done _

end Delegation

theorem Book.hold_loading (b : Book) (format : AddressFormat) (store : Store) (x : b.Extract) :
    Store.backend.hold (b.loading format x) store = store.carryOut (b.load format store x) := by
  cases b with
  | scorecards => exact Scorecard.register.hold_loadingVettedPaired store format x
  | budgets => exact Budget.register.hold_loadingVetted store format x
  | procurements => exact Procurement.register.hold_loadingVetted store format x
  | disbursements => exact Disbursement.hold_loading format store x
  | delegations => exact Delegation.register.hold_loadingVettedPaired store format x

theorem Book.settles_loading (b : Book) (format : AddressFormat) (x : b.Extract) :
    (b.loading format x).Settles := by
  cases b with
  | scorecards => exact Scorecard.register.settles_loadingVettedPaired format x
  | budgets => exact Budget.register.settles_loadingVetted format x
  | procurements => exact Procurement.register.settles_loadingVetted format x
  | disbursements => exact Disbursement.settles_loading format x
  | delegations => exact Delegation.register.settles_loadingVettedPaired format x

/-! ## Operations -/

namespace Operation

/-- How its answer is put makes no difference to a change. -/
theorem carryOut_answering {α : Type} (store : Store) (plan : Plan α) (outcome : α → Outcome) :
    store.carryOut (answering plan outcome) =
      ((store.carryOut plan).1.map outcome, (store.carryOut plan).2) := by
  cases plan with
  | error e => rfl
  | ok p =>
    obtain ⟨answer, batch⟩ := p
    simp only [answering, Except.map, Store.carryOut]
    rcases store.commit batch with ⟨result, after⟩
    cases result <;> rfl

/-- A dialogue that comes to a plan does so with the answer put otherwise. -/
theorem hold_map {α : Type} {d : Dialogue RecordError α} {store : Store} {plan : Plan α}
    (h : Store.backend.hold d store = store.carryOut plan) (outcome : α → Outcome) :
    Store.backend.hold (d.map outcome) store = store.carryOut (answering plan outcome) := by
  rw [Backend.hold_map, h, carryOut_answering]

/-- **An operation comes to its plan.** -/
theorem hold_dialogue (op : Operation) (policy : Policy) (sources : Sources) (store : Store) :
    Store.backend.hold (op.dialogue policy sources) store =
      store.carryOut (op.plan policy sources store) := by
  cases op with
  | rate card => exact hold_map (Scorecard.register.hold_entering store policy.addresses card _) _
  | enterBudget b => exact hold_map (Budget.hold_entering policy.addresses store b) _
  | advanceBudget id next =>
    exact hold_map (Budget.register.hold_advancing store policy sources.scores id next) _
  | endorseBudget id approval contract =>
    exact hold_map
      (Budget.register.hold_endorsing store policy sources.scores id approval contract) _
  | enterProcurement p =>
    exact hold_map (Procurement.hold_entering policy.addresses store sources.budgets p) _
  | advanceProcurement id next =>
    exact hold_map (Procurement.register.hold_advancing store policy sources.scores id next) _
  | endorseProcurement id approval contract =>
    exact hold_map
      (Procurement.register.hold_endorsing store policy sources.scores id approval contract) _
  | enterDisbursement d =>
    exact hold_map (Disbursement.hold_entering policy.addresses store sources.procurements d) _
  | advanceDisbursement id next =>
    exact hold_map (Disbursement.register.hold_advancing store policy sources.scores id next) _
  | endorseDisbursement id approval contract =>
    exact hold_map
      (Disbursement.register.hold_endorsing store policy sources.scores id approval contract) _
  | delegate d => exact hold_map (Delegation.register.hold_entering store policy.addresses d _) _
  | deactivate id => exact hold_map (Delegation.hold_deactivating store id) _
  | loadBook b x => exact hold_map (b.hold_loading policy.addresses store x) _

/-- **An operation settles.** -/
theorem settles_dialogue (op : Operation) (policy : Policy) (sources : Sources) :
    (op.dialogue policy sources).Settles := by
  cases op with
  | rate card => exact (Scorecard.register.settles_entering policy.addresses card _).map
  | enterBudget b => exact (Budget.settles_entering policy.addresses b).map
  | advanceBudget id next =>
    exact (Budget.register.settles_advancing policy sources.scores id next).map
  | endorseBudget id approval contract =>
    exact (Budget.register.settles_endorsing policy sources.scores id approval contract).map
  | enterProcurement p =>
    exact (Procurement.settles_entering policy.addresses sources.budgets p).map
  | advanceProcurement id next =>
    exact (Procurement.register.settles_advancing policy sources.scores id next).map
  | endorseProcurement id approval contract =>
    exact (Procurement.register.settles_endorsing policy sources.scores id approval contract).map
  | enterDisbursement d =>
    exact (Disbursement.settles_entering policy.addresses sources.procurements d).map
  | advanceDisbursement id next =>
    exact (Disbursement.register.settles_advancing policy sources.scores id next).map
  | endorseDisbursement id approval contract =>
    exact (Disbursement.register.settles_endorsing policy sources.scores id approval contract).map
  | delegate d => exact (Delegation.register.settles_entering policy.addresses d _).map
  | deactivate id => exact (Delegation.settles_deactivating id).map
  | loadBook b x => exact (b.settles_loading policy.addresses x).map

end Operation

end PublicFunds
