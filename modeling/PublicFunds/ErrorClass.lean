/-!
# Classes of errors

Every error belongs to one class, so that a caller can tell what kind of thing went wrong without
looking at what exactly it was.

* `ErrorClass.name`: the name of a class.
* `Report`: what every error can say about itself.
-/

namespace PublicFunds

/-- What kind of thing went wrong. -/
inductive ErrorClass where
  /-- A record does not exist. -/
  | notFound
  /-- A field that must hold an address does not. -/
  | invalidAddress
  /-- A field is missing or out of range. -/
  | validationError
  /-- A record has no liability contract where one is required. -/
  | liabilityContractMissing
  /-- A role or a signer would appear twice among the approvals. -/
  | duplicateApproval
  /-- There are fewer approvals than the quorum asks for. -/
  | approvalThreshold
  /-- The scorecard behind an approval does not exist. -/
  | approvalScoreLookupFailed
  /-- The scorecard behind an approval is about someone else. -/
  | approvalScoreMismatch
  /-- The score behind an approval is too low. -/
  | approvalScoreBelowThreshold
  /-- A status cannot follow the one that a record has. -/
  | invalidTransition
  /-- A procurement names a budget that does not exist. -/
  | budgetMissing
  /-- A disbursement names a procurement that does not exist. -/
  | procurementMissing
  /-- Disbursements would exceed the amount of their procurement. -/
  | amountExceeded
  /-- A store failed. -/
  | storage
  deriving DecidableEq, Repr

/-- The name of a class. -/
def ErrorClass.name : ErrorClass → String
  | .notFound => "not_found"
  | .invalidAddress => "invalid_address"
  | .validationError => "validation_error"
  | .liabilityContractMissing => "liability_contract_missing"
  | .duplicateApproval => "duplicate_approval"
  | .approvalThreshold => "approval_threshold"
  | .approvalScoreLookupFailed => "approval_score_lookup_failed"
  | .approvalScoreMismatch => "approval_score_mismatch"
  | .approvalScoreBelowThreshold => "approval_score_below_threshold"
  | .invalidTransition => "invalid_transition"
  | .budgetMissing => "budget_missing"
  | .procurementMissing => "procurement_missing"
  | .amountExceeded => "amount_exceeded"
  | .storage => "storage"

/-- A kind of error that can be reported. -/
class Report (ε : Type) where
  errorClass : ε → ErrorClass
  /-- The account of what went wrong. -/
  message : ε → String

end PublicFunds
