import PublicFunds.Approval.Quorum
import PublicFunds.Lifecycle.Basic

/-!
# Records with a lifecycle

Budgets, procurements and disbursements are governed: each has a status and an endorsement.  Both
change under the same rules for all three kinds, and nothing else about such a record ever changes.

A change of status or endorsement is checked twice, before it is made and as part of the record
that comes out of it.

* `Governed.transition`: the record with its next status.
* `Register.advance`, `Register.endorse`: the changes of a stored record.
-/

namespace PublicFunds

/-- A kind of record that has a status and an endorsement. -/
class Governed (ρ : Type) (σ : outParam Type) [Record ρ] [Lifecycle σ] where
  status : ρ → σ
  withStatus : ρ → σ → ρ
  endorsement : ρ → Endorsement
  withEndorsement : ρ → Endorsement → ρ
  status_withStatus : ∀ r s, status (withStatus r s) = s
  endorsement_withStatus : ∀ r s, endorsement (withStatus r s) = endorsement r
  id_withStatus : ∀ r s, Record.id (withStatus r s) = Record.id r
  withStatus_status : ∀ r, withStatus r (status r) = r
  withStatus_withStatus : ∀ r s t, withStatus (withStatus r s) t = withStatus r t
  status_withEndorsement : ∀ r e, status (withEndorsement r e) = status r
  endorsement_withEndorsement : ∀ r e, endorsement (withEndorsement r e) = e
  id_withEndorsement : ∀ r e, Record.id (withEndorsement r e) = Record.id r
  withEndorsement_endorsement : ∀ r, withEndorsement r (endorsement r) = r
  withEndorsement_withEndorsement : ∀ r e f,
    withEndorsement (withEndorsement r e) f = withEndorsement r f
  status_withId : ∀ r i, status (Record.withId r i) = status r
  endorsement_withId : ∀ r i, endorsement (Record.withId r i) = endorsement r

attribute [simp] Governed.status_withStatus Governed.endorsement_withStatus Governed.id_withStatus
  Governed.withStatus_status Governed.withStatus_withStatus Governed.status_withEndorsement
  Governed.endorsement_withEndorsement Governed.id_withEndorsement
  Governed.withEndorsement_endorsement Governed.withEndorsement_withEndorsement
  Governed.status_withId Governed.endorsement_withId

namespace Governed

variable {ρ σ : Type} [Record ρ] [Lifecycle σ] [DecidableEq σ] [Governed ρ σ]

/-- The record as it is entered: without an id, a step taken or an approval.  Its contract stays. -/
def fresh (record : ρ) : ρ :=
  Record.withId (withStatus (withEndorsement record
    { endorsement record with approvals := [] }) Lifecycle.initial) 0

/-- Whether the approvals of a record go together. -/
def checkEndorsement (format : AddressFormat) (record : ρ) : Except RecordError Unit :=
  ((endorsement record).check format (!Lifecycle.isInitial (status record))).mapError .approval

/-- The record with its next status; nothing if it has that status already. -/
def transition (quorum : Quorum) (scores : ScoreSource) (record : ρ) (next : σ) :
    Except RecordError (Option ρ) :=
  let current := status record
  if current = next then .ok none
  else if !Lifecycle.follows current next then
    .error (.transition (Lifecycle.name current) (Lifecycle.name next))
  else if Lifecycle.gated next then
    match quorum.ensure scores (endorsement record) with
    | .error e => .error (.approval e)
    | .ok () => .ok (some (withStatus record next))
  else .ok (some (withStatus record next))

/-- The record after one more approval. -/
def endorse (policy : Policy) (scores : ScoreSource) (record : ρ) (approval : Approval)
    (contract : String) : Except RecordError ρ :=
  match policy.approve scores (endorsement record) approval contract with
  | .error e => .error (.approval e)
  | .ok e => .ok (withEndorsement record e)

end Governed

namespace Register

variable {ρ σ : Type} [Record ρ] [Vetted ρ] [Lifecycle σ] [DecidableEq σ] [Governed ρ σ]

/-- Writes a record that passes its checks in the place of the one with its id. -/
def replace (r : Register ρ) (format : AddressFormat) (record : ρ) : Plan ρ :=
  match Vetted.check format record with
  | .error e => .error e
  | .ok () =>
    match r.stage record with
    | .error e => .error (.register e)
    | .ok batch => .ok (record, batch)

/-- Takes a stored record to its next status.  There is nothing to write if it is there. -/
def advance (r : Register ρ) (policy : Policy) (store : Store) (scores : ScoreSource)
    (id : RecordId) (next : σ) : Plan ρ :=
  match r.get store id with
  | .error e => .error (.register e)
  | .ok record =>
    match Governed.transition policy.quorum scores record next with
    | .error e => .error e
    | .ok none => .ok (record, [])
    | .ok (some record) => r.replace policy.addresses record

/-- Adds an approval to a stored record. -/
def endorse (r : Register ρ) (policy : Policy) (store : Store) (scores : ScoreSource)
    (id : RecordId) (approval : Approval) (contract : String) : Plan ρ :=
  match r.get store id with
  | .error e => .error (.register e)
  | .ok record =>
    match Governed.endorse policy scores record approval contract with
    | .error e => .error e
    | .ok record => r.replace policy.addresses record

end Register

end PublicFunds
