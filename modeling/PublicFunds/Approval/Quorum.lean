import PublicFunds.Approval.Basic
import PublicFunds.Scorecard.Basic

/-!
# Quorums

A quorum says how many approvals a record needs before it may take a step that commits money, and
how high the score behind an approval has to be.  Scores change, so the score behind an approval
is looked up when the approval is recorded and again whenever the quorum is called on.

A new approval takes the place of every earlier one that it conflicts with.

* `Quorum.checkBacking`: the scorecard behind an approval.
* `Quorum.ensure`: whether a record has its quorum.
* `Policy.approve`: the endorsement of a record after one more approval.
-/

namespace PublicFunds

/-- What approvals have to amount to. -/
structure Quorum where
  /-- How many approvals there have to be. -/
  minApprovals : UInt64
  /-- The lowest score that backs an approval. -/
  minScore : UInt32
  deriving DecidableEq, Repr

/-- What keeps a quorum from being one. -/
inductive QuorumFault where
  /-- It could be met without any approval. -/
  | noApprovals
  /-- It could never be met. -/
  | scoreTooHigh
  deriving DecidableEq, Repr

/-- The account of a quorum that is none. -/
def QuorumFault.message : QuorumFault → String
  | .noApprovals => "min_approvals must be at least 1"
  | .scoreTooHigh =>
    let highest := Scorecard.highest
    s!"min_score must not exceed {highest}"

namespace Quorum

/-- Two approvals with a score of eighty. -/
def standard : Quorum := ⟨2, 80⟩

/-- How quorums are shown. -/
def form : Form Quorum :=
  (Fields.field "min_approvals" .word64 <| .field "min_score" .word32 .nil).form.iso
    (fun q => (q.minApprovals, q.minScore, ()))
    (fun (minApprovals, minScore, ()) => ⟨minApprovals, minScore⟩)

/-- Whether a quorum asks for something, and for something that can be. -/
def check (q : Quorum) : Except QuorumFault Unit :=
  Check.all [
    Check.require (q.minApprovals != 0) .noApprovals,
    Check.require (q.minScore ≤ Scorecard.highest) .scoreTooHigh]

/-- Whether the scorecard that an approval points to is about its signer and high enough. -/
def checkBacking (q : Quorum) (scores : ScoreSource) (a : Approval) : Except ApprovalError Unit :=
  match scores a.scorecard with
  | .error e => .error (.register e)
  | .ok none => .error (.scoreMissing a.scorecard)
  | .ok (some card) =>
    Check.all [
      Check.require (NameKey.of card.subject == a.signerKey)
        (.scoreMismatch card.id card.subject a.signer),
      Check.require (q.minScore ≤ card.score) (.scoreTooLow card.id card.score q.minScore)]

/-- Whether a record has its quorum: a contract, enough approvals, and a scorecard behind every
one of them. -/
def ensure (q : Quorum) (scores : ScoreSource) (e : Endorsement) : Except ApprovalError Unit :=
  if !e.hasContract then .error .contractMissing
  else if e.approvals.length < q.minApprovals.toNat then
    .error (.tooFew q.minApprovals.toNat e.approvals.length)
  else Check.all (e.approvals.map (q.checkBacking scores))

end Quorum

/-- The rules of a ledger. -/
structure Policy where
  addresses : AddressFormat
  quorum : Quorum
  deriving DecidableEq, Repr

namespace Policy

/-- The usual addresses and the usual quorum. -/
def standard : Policy := ⟨.standard, .standard⟩

/-- The endorsement after one more approval.  A contract that is given with the approval replaces
the one that is there; a blank one does not. -/
def approve (policy : Policy) (scores : ScoreSource) (e : Endorsement) (a : Approval)
    (contract : String) : Except ApprovalError Endorsement :=
  let contract := if Text.isBlank contract then e.contract else contract
  if Text.isBlank contract then .error .contractMissing
  else
    let retained := e.approvals.filter fun earlier => !earlier.conflictsWith a
    match a.check policy.addresses with
    | .error fault => .error fault
    | .ok () =>
      if retained.any fun earlier => earlier.conflictsWith a then
        .error (.duplicate a.role a.signer)
      else
        match policy.quorum.checkBacking scores a with
        | .error fault => .error fault
        | .ok () => .ok ⟨contract, retained ++ [a]⟩

end Policy

end PublicFunds
