import PublicFunds.Procurement.Basic

/-!
# Disbursements

A disbursement pays out money for a procurement.  It is scheduled, released, verified and resolved,
and it can be disputed before it is verified.  Release, verification and resolution take a quorum.

* `Disbursement.checkFields`: the rules about the fields of a disbursement.
-/

namespace PublicFunds

/-- How far a disbursement is. -/
inductive DisbursementStatus where
  | scheduled
  | released
  | verified
  | disputed
  | resolved
  deriving DecidableEq, Repr

instance : Lifecycle DisbursementStatus where
  all := [.scheduled, .released, .verified, .disputed, .resolved]
  name
    | .scheduled => "DISBURSEMENT_STATUS_SCHEDULED"
    | .released => "DISBURSEMENT_STATUS_RELEASED"
    | .verified => "DISBURSEMENT_STATUS_VERIFIED"
    | .disputed => "DISBURSEMENT_STATUS_DISPUTED"
    | .resolved => "DISBURSEMENT_STATUS_RESOLVED"
  initial := .scheduled
  successors
    | .scheduled => [.released, .disputed]
    | .released => [.verified, .disputed]
    | .verified => [.resolved]
    | .disputed => [.resolved]
    | .resolved => []
  gated
    | .released => true
    | .verified => true
    | .resolved => true
    | _ => false

/-- A payment for a procurement. -/
structure Disbursement where
  id : RecordId
  procurement : RecordId
  amount : Amount
  currency : String
  status : DisbursementStatus
  evidenceUri : String
  notes : String
  performedBy : String
  endorsement : Endorsement
  deriving DecidableEq, Repr

namespace Disbursement

/-- A payment that has not been entered yet. -/
def scheduled (procurement : RecordId) (amount : Amount) (currency performedBy : String) :
    Disbursement :=
  ⟨0, procurement, amount, currency, .scheduled, "", "", performedBy, .none⟩

/-- How disbursements are stored and shown. -/
def form : Form Disbursement :=
  (Fields.field "id" .word64 <| .field "procurement_id" .word64 <| .field "amount" .amount <|
    .field "currency" .text <|
    .field "status" (Lifecycle.form DisbursementStatus) <|
    .field "evidence_uri" .text <| .field "notes" .text <| .field "performed_by" .text <|
    .field "liability_contract_uri" .text <|
    .field "approvals" Approval.form.list .nil).form.iso
    (fun d => (d.id, d.procurement, d.amount, d.currency, d.status, d.evidenceUri, d.notes,
      d.performedBy, d.endorsement.contract, d.endorsement.approvals, ()))
    (fun (id, procurement, amount, currency, status, evidenceUri, notes, performedBy, contract,
        approvals, ()) =>
      ⟨id, procurement, amount, currency, status, evidenceUri, notes, performedBy,
        ⟨contract, approvals⟩⟩)

instance : Record Disbursement where
  kind := "disbursement"
  form := form
  id := id
  withId d id := { d with id }
  id_withId _ _ := rfl
  withId_id _ := rfl
  withId_withId _ _ _ := rfl

instance : Governed Disbursement DisbursementStatus where
  status := status
  withStatus d status := { d with status }
  endorsement := endorsement
  withEndorsement d endorsement := { d with endorsement }
  status_withStatus _ _ := rfl
  endorsement_withStatus _ _ := rfl
  id_withStatus _ _ := rfl
  withStatus_status _ := rfl
  withStatus_withStatus _ _ _ := rfl
  status_withEndorsement _ _ := rfl
  endorsement_withEndorsement _ _ := rfl
  id_withEndorsement _ _ := rfl
  withEndorsement_endorsement _ := rfl
  withEndorsement_withEndorsement _ _ _ := rfl
  status_withId _ _ := rfl
  endorsement_withId _ _ := rfl

/-- A step changes the status and no other field. -/
@[simp] theorem withStatus_eq (d : Disbursement) (status : DisbursementStatus) :
    Governed.withStatus d status = { d with status } := rfl

/-- An approval changes the endorsement and no other field. -/
@[simp] theorem withEndorsement_eq (d : Disbursement) (endorsement : Endorsement) :
    Governed.withEndorsement d endorsement = { d with endorsement } := rfl

/-- The rules about the fields of a disbursement. -/
def checkFields (format : AddressFormat) (d : Disbursement) : Except RecordError Unit :=
  let defect := RecordError.invalid (Record.kind Disbursement)
  Check.all [
    Check.require (d.procurement != 0) (defect (.missing "procurement id")),
    Check.require (d.amount != .zero) (defect (.notPositive "amount")),
    Check.require (!Text.isBlank d.currency) (defect (.missing "currency")),
    Check.require (!Text.isBlank d.performedBy) (defect (.missing "performed_by")),
    (format.check d.performedBy).mapError (.badAddress (Record.kind Disbursement) "performed_by"),
    Governed.checkEndorsement format d]

instance : Vetted Disbursement where
  idField := "disbursement id"
  checkFields := checkFields

/-- Where disbursements are in their store. -/
def register : Register Disbursement := ⟨1, 2, none⟩

end Disbursement

end PublicFunds
