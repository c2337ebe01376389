import PublicFunds.Lifecycle.Governed

/-!
# Budgets

A budget is the money that an agency is given for a fiscal year.  It is drafted, becomes law, is
carried out and is completed; it can be archived at any time.  Everything past the draft takes a
quorum.

* `Budget.enter`: a new draft.
* `Register.advance`, `Register.endorse` at `Budget.register`: the steps after that.
-/

namespace PublicFunds

/-- How far a budget is. -/
inductive BudgetStatus where
  | draft
  | legislated
  | executing
  | completed
  | archived
  deriving DecidableEq, Repr

instance : Lifecycle BudgetStatus where
  all := [.draft, .legislated, .executing, .completed, .archived]
  name
    | .draft => "BUDGET_STATUS_DRAFT"
    | .legislated => "BUDGET_STATUS_LEGISLATED"
    | .executing => "BUDGET_STATUS_EXECUTING"
    | .completed => "BUDGET_STATUS_COMPLETED"
    | .archived => "BUDGET_STATUS_ARCHIVED"
  initial := .draft
  successors
    | .draft => [.legislated, .archived]
    | .legislated => [.executing, .archived]
    | .executing => [.completed, .archived]
    | .completed => [.archived]
    | .archived => []
  gated
    | .draft => false
    | _ => true

/-- The money that an agency is given for a fiscal year. -/
structure Budget where
  id : RecordId
  agency : String
  fiscalYear : String
  title : String
  amount : Amount
  currency : String
  metadataUri : String
  status : BudgetStatus
  createdBy : String
  endorsement : Endorsement
  deriving DecidableEq, Repr

namespace Budget

/-- A draft that has not been entered yet. -/
def drafted (agency fiscalYear title : String) (amount : Amount) (currency createdBy : String) :
    Budget :=
  ⟨0, agency, fiscalYear, title, amount, currency, "", .draft, createdBy, .none⟩

/-- How budgets are stored and shown. -/
def form : Form Budget :=
  (Fields.field "id" .word64 <| .field "agency" .text <| .field "fiscal_year" .text <|
    .field "title" .text <| .field "amount" .amount <| .field "currency" .text <|
    .field "metadata_uri" .text <|
    .field "status" (Lifecycle.form BudgetStatus) <|
    .field "created_by" .text <| .field "liability_contract_uri" .text <|
    .field "approvals" Approval.form.list .nil).form.iso
    (fun b => (b.id, b.agency, b.fiscalYear, b.title, b.amount, b.currency, b.metadataUri, b.status,
      b.createdBy, b.endorsement.contract, b.endorsement.approvals, ()))
    (fun (id, agency, fiscalYear, title, amount, currency, metadataUri, status, createdBy, contract,
        approvals, ()) =>
      ⟨id, agency, fiscalYear, title, amount, currency, metadataUri, status, createdBy,
        ⟨contract, approvals⟩⟩)

instance : Record Budget where
  kind := "budget"
  form := form
  id := id
  withId b id := { b with id }
  id_withId _ _ := rfl
  withId_id _ := rfl
  withId_withId _ _ _ := rfl

instance : Governed Budget BudgetStatus where
  status := status
  withStatus b status := { b with status }
  endorsement := endorsement
  withEndorsement b endorsement := { b with endorsement }
  status_withStatus _ _ := rfl
  endorsement_withStatus _ _ := rfl
  id_withStatus _ _ := rfl
  withStatus_status _ := rfl
  withStatus_withStatus _ _ _ := rfl
  status_withEndorsement _ _ := rfl
  endorsement_withEndorsement _ _ := rfl
  id_withEndorsement _ _ := rfl
  withEndorsement_endorsement _ := rfl
  withEndorsement_withEndorsement _ _ _ := rfl
  status_withId _ _ := rfl
  endorsement_withId _ _ := rfl

/-- A step changes the status and no other field. -/
@[simp] theorem withStatus_eq (b : Budget) (status : BudgetStatus) :
    Governed.withStatus b status = { b with status } := rfl

/-- An approval changes the endorsement and no other field. -/
@[simp] theorem withEndorsement_eq (b : Budget) (endorsement : Endorsement) :
    Governed.withEndorsement b endorsement = { b with endorsement } := rfl

/-- The rules about the fields of a budget. -/
def checkFields (format : AddressFormat) (b : Budget) : Except RecordError Unit :=
  let defect := RecordError.invalid (Record.kind Budget)
  Check.all [
    Check.require (!Text.isBlank b.agency) (defect (.missing "agency")),
    Check.require (!Text.isBlank b.fiscalYear) (defect (.missing "fiscal year")),
    Check.require (!Text.isBlank b.title) (defect (.missing "title")),
    Check.require (b.amount != .zero) (defect (.notPositive "amount")),
    Check.require (!Text.isBlank b.currency) (defect (.missing "currency")),
    Check.require (!Text.isBlank b.createdBy) (defect (.missing "creator address")),
    (format.check b.createdBy).mapError (.badAddress (Record.kind Budget) "created_by"),
    Governed.checkEndorsement format b]

instance : Vetted Budget where
  idField := "budget identifier"
  checkFields := checkFields

/-- Where budgets are in their store. -/
def register : Register Budget := ⟨1, 2, none⟩

/-- Enters a draft. -/
def enter (format : AddressFormat) (store : Store) (b : Budget) : Plan RecordId :=
  let b := Governed.fresh b
  match checkFields format b with
  | .error e => .error e
  | .ok () =>
    match register.add store b with
    | .error e => .error (.register e)
    | .ok (b, batch) => .ok (b.id, batch)

end Budget

/-- Where budgets are looked up by id. -/
abbrev BudgetSource := RecordId → Except RegisterError (Option Budget)

/-- Budgets in a store. -/
def Budget.source (store : Store) : BudgetSource := Budget.register.find store

end PublicFunds
