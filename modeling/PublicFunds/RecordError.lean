import PublicFunds.Address
import PublicFunds.Amount
import PublicFunds.Register.Error

/-!
# Errors of records

Why the ledger refuses to take a record, to change one or to answer.  A refusal that is about the
contents of a record says which rule they break; the other refusals say which record, score, total
or store is to blame.
-/

namespace PublicFunds

/-- Which rule the contents of a record break. -/
inductive Defect where
  /-- A field is blank, or zero where an id has to be. -/
  | missing (field : String)
  /-- The record has no id of its own. -/
  | unset (field : String)
  /-- A number is zero. -/
  | notPositive (field : String)
  /-- A score is above the highest. -/
  | scoreTooHigh (highest score : UInt32)
  deriving DecidableEq, Repr

/-- The account of a defect. -/
def Defect.message : Defect → String
  | .missing field => s!"{field} is required"
  | .unset field => s!"{field} must be set"
  | .notPositive field => s!"{field} must be positive"
  | .scoreTooHigh highest score => s!"score must be between 0 and {highest}, got {score}"

/-- Why an approval, or the approvals of a record, are not enough. -/
inductive ApprovalError where
  /-- The record has no liability contract and none is given. -/
  | contractMissing
  /-- The approval is incomplete. -/
  | invalid (defect : Defect)
  /-- The signer is no address. -/
  | badSigner (signer : String) (fault : AddressFault)
  /-- The role or the signer is there already. -/
  | duplicate (role signer : String)
  /-- There are too few approvals. -/
  | tooFew (required actual : Nat)
  /-- The scorecard behind the approval does not exist. -/
  | scoreMissing (card : UInt64)
  /-- The scorecard is about someone else. -/
  | scoreMismatch (card : UInt64) (subject signer : String)
  /-- The score is too low. -/
  | scoreTooLow (card : UInt64) (score lowest : UInt32)
  /-- The scorecard could not be looked up. -/
  | register (cause : RegisterError)
  deriving DecidableEq, Repr

namespace ApprovalError

/-- The class of an error. -/
def errorClass : ApprovalError → ErrorClass
  | .contractMissing => .liabilityContractMissing
  | .invalid _ => .validationError
  | .badSigner .. => .invalidAddress
  | .duplicate .. => .duplicateApproval
  | .tooFew .. => .approvalThreshold
  | .scoreMissing _ => .approvalScoreLookupFailed
  | .scoreMismatch .. => .approvalScoreMismatch
  | .scoreTooLow .. => .approvalScoreBelowThreshold
  | .register cause => cause.errorClass

/-- The account of an error. -/
def message : ApprovalError → String
  | .contractMissing => "liability contract required"
  | .invalid defect => "invalid approval: " ++ defect.message
  | .badSigner signer fault => s!"invalid approval signer {signer}: " ++ fault.message
  | .duplicate role signer => s!"duplicate approval role {role} or signer {signer}"
  | .tooFew required actual => s!"insufficient approvals: {actual} of {required} required"
  | .scoreMissing card => s!"scorecard #{card} backing approval not found"
  | .scoreMismatch card subject signer =>
    s!"scorecard #{card} subject {subject} does not match signer {signer}"
  | .scoreTooLow card score lowest =>
    s!"scorecard #{card} score {score} below threshold {lowest}"
  | .register cause => cause.message

instance : Report ApprovalError := ⟨errorClass, message⟩

end ApprovalError

/-- Why the ledger refuses something that is about a record. -/
inductive RecordError where
  /-- The contents of a record of some kind break a rule. -/
  | invalid (kind : String) (defect : Defect)
  /-- A field of a record of some kind holds no address. -/
  | badAddress (kind field : String) (fault : AddressFault)
  /-- An approval is to blame, or the approvals together. -/
  | approval (cause : ApprovalError)
  /-- One status does not follow the other. -/
  | transition (current next : String)
  /-- The budget of a procurement does not exist. -/
  | budgetMissing (budget : UInt64)
  /-- The procurement of a disbursement does not exist. -/
  | procurementMissing (procurement : UInt64)
  /-- A disbursement does not fit under what is left of its procurement. -/
  | amountExceeded (procurement : UInt64) (requested disbursed cap : Amount)
  /-- A running total is not the sum of its records. -/
  | totalsDisagree (procurement : UInt64) (stored recomputed : Amount)
  /-- The records of a procurement have no sum. -/
  | totalOverflow (procurement : UInt64)
  /-- A register could not answer. -/
  | register (cause : RegisterError)
  /-- An export could not be loaded. -/
  | genesis (cause : GenesisError)
  deriving DecidableEq, Repr

namespace RecordError

/-- The class of an error. -/
def errorClass : RecordError → ErrorClass
  | .invalid .. => .validationError
  | .badAddress .. => .invalidAddress
  | .approval cause => cause.errorClass
  | .transition .. => .invalidTransition
  | .budgetMissing _ => .budgetMissing
  | .procurementMissing _ => .procurementMissing
  | .amountExceeded .. => .amountExceeded
  | .totalsDisagree .. => .storage
  | .totalOverflow _ => .storage
  | .register cause => cause.errorClass
  | .genesis cause => cause.errorClass

/-- The account of an error. -/
def message : RecordError → String
  | .invalid kind defect => s!"invalid {kind}: " ++ defect.message
  | .badAddress kind field fault => s!"invalid {kind} {field} address: " ++ fault.message
  | .approval cause => cause.message
  | .transition current next => s!"invalid status transition {current} -> {next}"
  | .budgetMissing budget => s!"budget #{budget} not found for procurement"
  | .procurementMissing procurement => s!"procurement #{procurement} not found for disbursement"
  | .amountExceeded procurement requested disbursed cap =>
    s!"disbursement of {requested.decimal} exceeds procurement #{procurement} cap " ++
      s!"{cap.decimal} (already disbursed {disbursed.decimal})"
  | .totalsDisagree procurement stored recomputed =>
    s!"disbursed total for procurement #{procurement} is {stored.decimal}, records sum to " ++
      recomputed.decimal
  | .totalOverflow procurement =>
    s!"disbursed records for procurement #{procurement} overflow the amount range"
  | .register cause => cause.message
  | .genesis cause => cause.message

instance : Report RecordError := ⟨errorClass, message⟩

end RecordError

end PublicFunds
