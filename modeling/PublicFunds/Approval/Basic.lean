import PublicFunds.Check
import PublicFunds.Form.Fields
import PublicFunds.RecordError
import PublicFunds.Register.Record

/-!
# Approvals

Spending public money takes more than one officer.  An officer who approves a record signs it in
some role and points to the scorecard that backs the signature.  A record keeps its approvals
together with the contract that makes the signers liable; without such a contract there is nothing
to sign.

One officer counts once and so does one role, so an approval conflicts with every other one of the
same signer or of the same role.  Signers and roles are compared by their keys.

* `Approval.check`: what a single approval has to satisfy.
* `Endorsement.check`: what the approvals of a record have to satisfy together.
-/

namespace PublicFunds

/-- The signature of an officer in some role. -/
structure Approval where
  signer : String
  role : String
  /-- The scorecard that backs the signature. -/
  scorecard : RecordId
  signatureUri : String
  deriving DecidableEq, Repr

namespace Approval

/-- How approvals are stored and shown. -/
def form : Form Approval :=
  (Fields.field "signer" .text <| .field "role" .text <| .field "scorecard_id" .word64 <|
    .field "signature_uri" .text .nil).form.iso
    (fun a => (a.signer, a.role, a.scorecard, a.signatureUri, ()))
    (fun (signer, role, scorecard, signatureUri, ()) => ⟨signer, role, scorecard, signatureUri⟩)

/-- What the role is compared by. -/
def roleKey (a : Approval) : NameKey := .of a.role

/-- What the signer is compared by. -/
def signerKey (a : Approval) : NameKey := .of a.signer

/-- Whether two approvals have the same role or the same signer. -/
def conflictsWith (a b : Approval) : Bool :=
  a.roleKey == b.roleKey || a.signerKey == b.signerKey

/-- Conflicts are mutual. -/
theorem conflictsWith_comm (a b : Approval) : a.conflictsWith b = b.conflictsWith a := by
  simp only [conflictsWith, Bool.beq_comm]

/-- Every approval conflicts with itself. -/
@[simp] theorem conflictsWith_self (a : Approval) : a.conflictsWith a = true := by
  simp [conflictsWith]

/-- Whether an approval is complete. -/
def checkContent (a : Approval) : Except ApprovalError Unit :=
  Check.all [
    Check.require (!Text.isBlank a.signer) (.invalid (.missing "signer address")),
    Check.require (!Text.isBlank a.role) (.invalid (.missing "role")),
    Check.require (a.scorecard != 0) (.invalid (.unset "scorecard id")),
    Check.require (!Text.isBlank a.signatureUri) (.invalid (.missing "signature_uri"))]

/-- Whether an approval is complete and its signer is an address. -/
def check (format : AddressFormat) (a : Approval) : Except ApprovalError Unit :=
  Check.all [a.checkContent, (format.check a.signer).mapError (.badSigner a.signer)]

end Approval

/-- The contract of a record and its approvals, the latest last. -/
structure Endorsement where
  /-- Where the liability contract is; blank if there is none. -/
  contract : String
  approvals : List Approval
  deriving DecidableEq, Repr

namespace Endorsement

/-- No contract and no approval. -/
def none : Endorsement := ⟨"", []⟩

instance : Inhabited Endorsement := ⟨none⟩

/-- How an endorsement is shown apart from its record. -/
def form : Form Endorsement :=
  (Fields.field "contract" .text <| .field "approvals" Approval.form.list .nil).form.iso
    (fun e => (e.contract, e.approvals, ()))
    (fun (contract, approvals, ()) => ⟨contract, approvals⟩)

/-- Whether there is a contract. -/
def hasContract (e : Endorsement) : Bool := !Text.isBlank e.contract

/-- Goes through some approvals with those before them: each has to pass its own check and must not
conflict with an earlier one. -/
def checkAfter (format : AddressFormat) (earlier : List Approval) :
    List Approval → Except ApprovalError Unit
  | [] => .ok ()
  | a :: rest =>
    match a.check format with
    | .error e => .error e
    | .ok () =>
      if earlier.any a.conflictsWith then .error (.duplicate a.role a.signer)
      else checkAfter format (a :: earlier) rest

/-- Whether the approvals of a record go together.  A record that is under way needs a contract
even if it has no approvals. -/
def check (format : AddressFormat) (underWay : Bool) (e : Endorsement) :
    Except ApprovalError Unit :=
  if underWay && !e.hasContract then .error .contractMissing
  else checkAfter format [] e.approvals

end Endorsement

end PublicFunds
