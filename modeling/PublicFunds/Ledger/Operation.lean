import PublicFunds.Ledger.Basic

/-!
# Operations on a ledger

Everything that changes a ledger, one genesis document apart, concerns one book: records are
entered in it, go to their next status, are approved or given up, or an export of the book is
loaded.  Such an operation is a dialogue with the store of its book, in which it also looks up
records of other books.  What it comes to can be worked out from the store.

* `Operation.dialogue`, `Operation.plan`: an operation call by call, and worked out.
* `Ledger.perform`: an operation carried out.
* `Ledger.run`: some steps in a row, whether they succeed or not.
-/

namespace PublicFunds

/-- A change of one book. -/
inductive Operation where
  /-- Rates a subject. -/
  | rate (card : Scorecard)
  /-- Enters the draft of a budget. -/
  | enterBudget (b : Budget)
  /-- Takes a budget to its next status. -/
  | advanceBudget (id : RecordId) (next : BudgetStatus)
  /-- Approves a budget, if need be under a new contract. -/
  | endorseBudget (id : RecordId) (approval : Approval) (contract : String)
  /-- Enters the plan of a procurement. -/
  | enterProcurement (p : Procurement)
  /-- Takes a procurement to its next status. -/
  | advanceProcurement (id : RecordId) (next : ProcurementStatus)
  /-- Approves a procurement, if need be under a new contract. -/
  | endorseProcurement (id : RecordId) (approval : Approval) (contract : String)
  /-- Schedules a disbursement. -/
  | enterDisbursement (d : Disbursement)
  /-- Takes a disbursement to its next status. -/
  | advanceDisbursement (id : RecordId) (next : DisbursementStatus)
  /-- Approves a disbursement, if need be under a new contract. -/
  | endorseDisbursement (id : RecordId) (approval : Approval) (contract : String)
  /-- Delegates. -/
  | delegate (d : Delegation)
  /-- Gives a delegation up. -/
  | deactivate (id : RecordId)
  /-- Loads the export of a book. -/
  | loadBook (b : Book) (s : b.Extract)

/-- What an operation answers. -/
inductive Outcome where
  /-- The id of the record that was entered. -/
  | entered (id : RecordId)
  /-- The record as it is now. -/
  | changed (b : Book) (record : b.Item)
  /-- There is nothing to say. -/
  | done

namespace Operation

/-- The book that an operation concerns. -/
def book : Operation → Book
  | .rate _ => .scorecards
  | .enterBudget _ => .budgets
  | .advanceBudget .. => .budgets
  | .endorseBudget .. => .budgets
  | .enterProcurement _ => .procurements
  | .advanceProcurement .. => .procurements
  | .endorseProcurement .. => .procurements
  | .enterDisbursement _ => .disbursements
  | .advanceDisbursement .. => .disbursements
  | .endorseDisbursement .. => .disbursements
  | .delegate _ => .delegations
  | .deactivate _ => .delegations
  | .loadBook b _ => b

/-- What an operation does with the store of its book, call by call. -/
def dialogue (policy : Policy) (sources : Sources) : Operation → Dialogue RecordError Outcome
  | .rate card => (Scorecard.entering policy.addresses card).map .entered
  | .enterBudget b => (Budget.entering policy.addresses b).map .entered
  | .advanceBudget id next =>
    (Budget.register.advancing policy sources.scores id next).map (.changed .budgets)
  | .endorseBudget id approval contract =>
    (Budget.register.endorsing policy sources.scores id approval contract).map (.changed .budgets)
  | .enterProcurement p =>
    (Procurement.entering policy.addresses sources.budgets p).map .entered
  | .advanceProcurement id next =>
    (Procurement.register.advancing policy sources.scores id next).map (.changed .procurements)
  | .endorseProcurement id approval contract =>
    (Procurement.register.endorsing policy sources.scores id approval contract).map
      (.changed .procurements)
  | .enterDisbursement d =>
    (Disbursement.entering policy.addresses sources.procurements d).map .entered
  | .advanceDisbursement id next =>
    (Disbursement.register.advancing policy sources.scores id next).map (.changed .disbursements)
  | .endorseDisbursement id approval contract =>
    (Disbursement.register.endorsing policy sources.scores id approval contract).map
      (.changed .disbursements)
  | .delegate d => (Delegation.entering policy.addresses d).map .entered
  | .deactivate id => (Delegation.deactivating id).map (.changed .delegations)
  | .loadBook b s => (b.loading policy.addresses s).map fun () => .done

/-- A plan with an outcome for an answer. -/
def answering {α : Type} (plan : Plan α) (outcome : α → Outcome) : Plan Outcome :=
  plan.map fun result => (outcome result.1, result.2)

/-- What an operation comes to, worked out from the store of its book: why it is refused, or its
answer and what it writes. -/
def plan (policy : Policy) (sources : Sources) (store : Store) : Operation → Plan Outcome
  | .rate card => answering (Scorecard.upsert policy.addresses store card) .entered
  | .enterBudget b => answering (Budget.enter policy.addresses store b) .entered
  | .advanceBudget id next =>
    answering (Budget.register.advance policy store sources.scores id next) (.changed .budgets)
  | .endorseBudget id approval contract =>
    answering (Budget.register.endorse policy store sources.scores id approval contract)
      (.changed .budgets)
  | .enterProcurement p =>
    answering (Procurement.enter policy.addresses store sources.budgets p) .entered
  | .advanceProcurement id next =>
    answering (Procurement.register.advance policy store sources.scores id next)
      (.changed .procurements)
  | .endorseProcurement id approval contract =>
    answering (Procurement.register.endorse policy store sources.scores id approval contract)
      (.changed .procurements)
  | .enterDisbursement d =>
    answering (Disbursement.enter policy.addresses store sources.procurements d) .entered
  | .advanceDisbursement id next =>
    answering (Disbursement.register.advance policy store sources.scores id next)
      (.changed .disbursements)
  | .endorseDisbursement id approval contract =>
    answering (Disbursement.register.endorse policy store sources.scores id approval contract)
      (.changed .disbursements)
  | .delegate d => answering (Delegation.enter policy.addresses store d) .entered
  | .deactivate id => answering (Delegation.deactivate store id) (.changed .delegations)
  | .loadBook b s => answering (b.load policy.addresses store s) fun () => .done

end Operation

namespace Ledger

/-- Carries an operation out, looking up records of other books in some sources. -/
def performWith (ledger : Ledger) (sources : Sources) (operation : Operation) :
    Except LedgerError Outcome × Ledger :=
  match Store.backend.hold (operation.dialogue ledger.policy sources)
      (ledger.store operation.book) with
  | (.error e, store) => (.error (.refused e), ledger.withStore operation.book store)
  | (.ok outcome, store) => (.ok outcome, ledger.withStore operation.book store)

/-- Carries an operation out. -/
def perform (ledger : Ledger) (operation : Operation) : Except LedgerError Outcome × Ledger :=
  ledger.performWith ledger.sources operation

end Ledger

/-- A change of a ledger. -/
inductive Step where
  /-- An operation on one book. -/
  | operate (operation : Operation)
  /-- Loading a genesis document. -/
  | load (g : Genesis)

namespace Ledger

/-- The ledger after a step, and what the step answers. -/
def step (ledger : Ledger) : Step → Except LedgerError Outcome × Ledger
  | .operate operation => ledger.perform operation
  | .load g =>
    match ledger.load g with
    | (.error e, ledger) => (.error e, ledger)
    | (.ok (), ledger) => (.ok .done, ledger)

/-- The ledger after some steps in a row.  A step that is refused does not end the run. -/
def run (ledger : Ledger) (steps : List Step) : Ledger :=
  steps.foldl (fun ledger step => (ledger.step step).2) ledger

@[simp] theorem run_nil (ledger : Ledger) : ledger.run [] = ledger := rfl

@[simp] theorem run_cons (ledger : Ledger) (step : Step) (steps : List Step) :
    ledger.run (step :: steps) = (ledger.step step).2.run steps := rfl

theorem run_append (ledger : Ledger) (first second : List Step) :
    ledger.run (first ++ second) = (ledger.run first).run second := by
  simp [run, List.foldl_append]

end Ledger

end PublicFunds
