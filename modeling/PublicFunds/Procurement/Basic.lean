import PublicFunds.Budget.Basic

/-!
# Procurements

A procurement is a contract that is planned, tendered, awarded, carried out and completed under a
budget; it can be cancelled until then.  What is disbursed for it may not exceed its amount.  The
award and the steps after it take a quorum, tendering and cancelling do not.

* `Procurement.enter`: a new plan, under a budget that exists.
-/

namespace PublicFunds

/-- How far a procurement is. -/
inductive ProcurementStatus where
  | planning
  | tendering
  | awarded
  | executing
  | completed
  | cancelled
  deriving DecidableEq, Repr

instance : Lifecycle ProcurementStatus where
  all := [.planning, .tendering, .awarded, .executing, .completed, .cancelled]
  name
    | .planning => "PROCUREMENT_STATUS_PLANNING"
    | .tendering => "PROCUREMENT_STATUS_TENDERING"
    | .awarded => "PROCUREMENT_STATUS_AWARDED"
    | .executing => "PROCUREMENT_STATUS_EXECUTING"
    | .completed => "PROCUREMENT_STATUS_COMPLETED"
    | .cancelled => "PROCUREMENT_STATUS_CANCELLED"
  initial := .planning
  successors
    | .planning => [.tendering, .cancelled]
    | .tendering => [.awarded, .cancelled]
    | .awarded => [.executing, .cancelled]
    | .executing => [.completed, .cancelled]
    | .completed => []
    | .cancelled => []
  gated
    | .awarded => true
    | .executing => true
    | .completed => true
    | _ => false

/-- A contract under a budget. -/
structure Procurement where
  id : RecordId
  budget : RecordId
  reference : String
  agency : String
  title : String
  category : String
  /-- What may be disbursed at most. -/
  amount : Amount
  currency : String
  supplier : String
  status : ProcurementStatus
  metadataUri : String
  officer : String
  endorsement : Endorsement
  deriving DecidableEq, Repr

namespace Procurement

/-- A plan that has not been entered yet. -/
def planned (budget : RecordId) (reference agency title : String) (amount : Amount)
    (currency officer : String) : Procurement :=
  ⟨0, budget, reference, agency, title, "", amount, currency, "", .planning, "", officer, .none⟩

/-- How procurements are stored and shown. -/
def form : Form Procurement :=
  (Fields.field "id" .word64 <| .field "budget_id" .word64 <| .field "reference" .text <|
    .field "agency" .text <| .field "title" .text <| .field "category" .text <|
    .field "amount" .amount <| .field "currency" .text <| .field "supplier" .text <|
    .field "status" (Lifecycle.form ProcurementStatus) <|
    .field "metadata_uri" .text <| .field "officer" .text <|
    .field "liability_contract_uri" .text <|
    .field "approvals" Approval.form.list .nil).form.iso
    (fun p => (p.id, p.budget, p.reference, p.agency, p.title, p.category, p.amount, p.currency,
      p.supplier, p.status, p.metadataUri, p.officer, p.endorsement.contract,
      p.endorsement.approvals, ()))
    (fun (id, budget, reference, agency, title, category, amount, currency, supplier, status,
        metadataUri, officer, contract, approvals, ()) =>
      ⟨id, budget, reference, agency, title, category, amount, currency, supplier, status,
        metadataUri, officer, ⟨contract, approvals⟩⟩)

instance : Record Procurement where
  kind := "procurement"
  form := form
  id := id
  withId p id := { p with id }
  id_withId _ _ := rfl
  withId_id _ := rfl
  withId_withId _ _ _ := rfl

instance : Governed Procurement ProcurementStatus where
  status := status
  withStatus p status := { p with status }
  endorsement := endorsement
  withEndorsement p endorsement := { p with endorsement }
  status_withStatus _ _ := rfl
  endorsement_withStatus _ _ := rfl
  id_withStatus _ _ := rfl
  withStatus_status _ := rfl
  withStatus_withStatus _ _ _ := rfl
  status_withEndorsement _ _ := rfl
  endorsement_withEndorsement _ _ := rfl
  id_withEndorsement _ _ := rfl
  withEndorsement_endorsement _ := rfl
  withEndorsement_withEndorsement _ _ _ := rfl
  status_withId _ _ := rfl
  endorsement_withId _ _ := rfl

/-- A step changes the status and no other field. -/
@[simp] theorem withStatus_eq (p : Procurement) (status : ProcurementStatus) :
    Governed.withStatus p status = { p with status } := rfl

/-- An approval changes the endorsement and no other field. -/
@[simp] theorem withEndorsement_eq (p : Procurement) (endorsement : Endorsement) :
    Governed.withEndorsement p endorsement = { p with endorsement } := rfl

/-- The rules about the fields of a procurement. -/
def checkFields (format : AddressFormat) (p : Procurement) : Except RecordError Unit :=
  let defect := RecordError.invalid (Record.kind Procurement)
  Check.all [
    Check.require (p.budget != 0) (defect (.missing "budget id")),
    Check.require (!Text.isBlank p.reference) (defect (.missing "reference")),
    Check.require (!Text.isBlank p.agency) (defect (.missing "agency")),
    Check.require (!Text.isBlank p.title) (defect (.missing "title")),
    Check.require (p.amount != .zero) (defect (.notPositive "amount")),
    Check.require (!Text.isBlank p.currency) (defect (.missing "currency")),
    Check.require (!Text.isBlank p.officer) (defect (.missing "procurement officer")),
    (format.check p.officer).mapError (.badAddress (Record.kind Procurement) "officer"),
    Governed.checkEndorsement format p]

instance : Vetted Procurement where
  idField := "procurement id"
  checkFields := checkFields

/-- Where procurements are in their store. -/
def register : Register Procurement := ⟨1, 2, none⟩

/-- Enters a plan. -/
def enter (format : AddressFormat) (store : Store) (budgets : BudgetSource) (p : Procurement) :
    Plan RecordId :=
  let p := Governed.fresh p
  match checkFields format p with
  | .error e => .error e
  | .ok () =>
    match budgets p.budget with
    | .error e => .error (.register e)
    | .ok none => .error (.budgetMissing p.budget)
    | .ok (some _) =>
      match register.add store p with
      | .error e => .error (.register e)
      | .ok (p, batch) => .ok (p.id, batch)

end Procurement

/-- Where procurements are looked up by id. -/
abbrev ProcurementSource := RecordId → Except RegisterError (Option Procurement)

/-- Procurements in a store. -/
def Procurement.source (store : Store) : ProcurementSource := Procurement.register.find store

end PublicFunds
