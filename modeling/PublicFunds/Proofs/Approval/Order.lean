import Mathlib.Control.Monad.Basic
import PublicFunds.Budget.Basic
import PublicFunds.Proofs.Approval.Verdict

/-!
# Approvals in any order

Officers approve a record one after the other, and it may happen that one of them sends an approval
twice, or that two of them come in another order than they were sent.  Neither matters.  An approval
takes the place of every earlier one that it conflicts with, so of itself when it comes again.  And
whether it is accepted depends on itself, on the scorecard behind it, and on whether the record has
a contract; but approvals that come with the same contract leave a record with a contract or without
one, whichever of them came before.

What does depend on the order is the place of an approval in the list, and, between approvals that
conflict, which of them stays.  For approvals that do not conflict with each other it is the place
only, however many there are and whatever was in the list before.  A quorum does not see the place.

* `Endorsement.Agrees`: one contract and the same approvals in any order.
* `Endorsement.approved_approved_self`, `Endorsement.approved_comm`: an approval that comes again,
  and two that change places.
* `Policy.verdict_attempt`, `Policy.verdict_attempts`: what is said of an approval does not depend
  on those before it.
* `Policy.mem_attempts`, `Policy.attempts_perm`: approvals that do not conflict stay, and may come
  in any order.
* `Governed.order_free`: what this comes to for a record.
-/

namespace PublicFunds

/-! ## Endorsements up to the order of their approvals -/

namespace Endorsement

attribute [ext] Endorsement

/-- Endorsements have one contract and the same approvals, in whatever order. -/
structure Agrees (e f : Endorsement) : Prop where
  contract : e.contract = f.contract
  approvals : e.approvals.Perm f.approvals

variable {e f g : Endorsement} {a b : Approval} {contract : String}

namespace Agrees

theorem refl (e : Endorsement) : e.Agrees e := ⟨rfl, .refl _⟩

theorem trans (h : e.Agrees f) (h' : f.Agrees g) : e.Agrees g :=
  ⟨h.contract.trans h'.contract, h.approvals.trans h'.approvals⟩

/-- One more approval does not change that two endorsements agree. -/
theorem approved (h : e.Agrees f) (a : Approval) (contract : String) :
    (e.approved a contract).Agrees (f.approved a contract) where
  contract := by rw [contract_approved, contract_approved, h.contract]
  approvals := (h.approvals.filter _).append_right _

/-- **A quorum does not depend on the order of the approvals.** -/
theorem ensure_iff (h : e.Agrees f) (q : Quorum) (scores : ScoreSource) :
    q.ensure scores e = .ok () ↔ q.ensure scores f = .ok () := by
  have stands : q.Stands scores e ↔ q.Stands scores f := by
    refine ⟨fun s => ⟨?_, fun a ha => s.backed a (h.approvals.mem_iff.2 ha)⟩,
      fun s => ⟨?_, fun a ha => s.backed a (h.approvals.mem_iff.1 ha)⟩⟩
    · exact h.approvals.length_eq ▸ s.enough
    · exact h.approvals.length_eq ▸ s.enough
  rw [Quorum.ensure_eq_ok_iff, Quorum.ensure_eq_ok_iff, h.contract, stands]

end Agrees

/-- A contract that is given once and again is given once. -/
theorem contract_approved_approved (e : Endorsement) (a b : Approval) (contract : String) :
    ((e.approved a contract).approved b contract).contract = (e.approved b contract).contract := by
  rw [contract_approved, contract_approved, contract_approved]
  split
  · rfl
  · rfl

/-- **An approval that comes again changes nothing.** -/
theorem approved_approved_self (e : Endorsement) (a : Approval) (contract : String) :
    (e.approved a contract).approved a contract = e.approved a contract := by
  have stay : ((e.approved a contract).approved a contract).approvals =
      (e.approved a contract).approvals := by
    rw [approvals_approved, approvals_approved, List.filter_append, List.filter_filter]
    simp
  exact Endorsement.ext (contract_approved_approved e a a contract) stay

/-- **Two approvals that do not conflict may change places.**  Each drops what it conflicts with
from the approvals that were there, and neither drops the other. -/
theorem approved_comm (apart : a.conflictsWith b = false) (e : Endorsement) (contract : String) :
    ((e.approved a contract).approved b contract).Agrees
      ((e.approved b contract).approved a contract) where
  contract := by
    rw [contract_approved_approved, contract_approved_approved, contract_approved,
      contract_approved]
  approvals := by
    have apart' : b.conflictsWith a = false := by rwa [Approval.conflictsWith_comm]
    have drop : (e.approvals.filter fun c => !c.conflictsWith a).filter
        (fun c => !c.conflictsWith b) =
          (e.approvals.filter fun c => !c.conflictsWith b).filter fun c => !c.conflictsWith a := by
      rw [List.filter_filter, List.filter_filter]
      exact List.filter_congr fun c _ => Bool.and_comm _ _
    have stays : [a].filter (fun c => !c.conflictsWith b) = [a] := by simp [apart]
    have stays' : [b].filter (fun c => !c.conflictsWith a) = [b] := by simp [apart']
    rw [approvals_approved, approvals_approved, approvals_approved, approvals_approved,
      List.filter_append, List.filter_append, drop, stays, stays', List.append_assoc,
      List.append_assoc]
    exact (List.Perm.swap b a []).append_left _

end Endorsement

/-! ## Attempts to record an approval -/

namespace Policy

variable {policy : Policy} {scores : ScoreSource} {e f : Endorsement} {a b : Approval}
  {contract : String}

/-- What an officer is told about an approval: that it is recorded, or why it is not. -/
def verdict (policy : Policy) (scores : ScoreSource) (contract : String) (e : Endorsement)
    (a : Approval) : Except ApprovalError Unit :=
  (policy.approve scores e a contract).map fun _ => ()

/-- The endorsement after an attempt to record an approval.  One that is refused leaves it as it
was. -/
def attempt (policy : Policy) (scores : ScoreSource) (contract : String) (e : Endorsement)
    (a : Approval) : Endorsement :=
  match policy.approve scores e a contract with
  | .error _ => e
  | .ok e' => e'

/-- The endorsement after some attempts, one after the other. -/
def attempts (policy : Policy) (scores : ScoreSource) (contract : String) (e : Endorsement)
    (approvals : List Approval) : Endorsement :=
  approvals.foldl (policy.attempt scores contract) e

theorem attempts_cons (a : Approval) (rest : List Approval) :
    policy.attempts scores contract e (a :: rest) =
      policy.attempts scores contract (policy.attempt scores contract e a) rest :=
  rfl

/-- What is said of an approval that comes with a contract, from the approval alone. -/
def judge (policy : Policy) (scores : ScoreSource) (a : Approval) : Except ApprovalError Unit :=
  Check.all [a.check policy.addresses, policy.quorum.checkBacking scores a]

/-- Recording an approval depends on the record only in whether there is a contract. -/
theorem approve_eq_judge : policy.approve scores e a contract =
    if Text.isBlank contract && Text.isBlank e.contract then .error .contractMissing
    else (policy.judge scores a).map fun _ => e.approved a contract := by
  rw [← Endorsement.isBlank_approved]
  cases given : Text.isBlank (e.approved a contract).contract with
  | true => exact approve_of_blank given
  | false =>
    rw [approve_eq given, if_neg Bool.false_ne_true, judge]
    cases a.check policy.addresses with
    | error fault => rfl
    | ok passed =>
      cases policy.quorum.checkBacking scores a with
      | error fault => rfl
      | ok backed => rfl

/-- **What is said of an approval** depends on the record only in whether there is a contract. -/
theorem verdict_eq : policy.verdict scores contract e a =
    if Text.isBlank contract && Text.isBlank e.contract then .error .contractMissing
    else policy.judge scores a := by
  rw [verdict, approve_eq_judge]
  split
  · rfl
  · cases policy.judge scores a with
    | error fault => rfl
    | ok passed => rfl

/-- An approval that is not refused is recorded as it is. -/
theorem approve_eq_map : policy.approve scores e a contract =
    (policy.verdict scores contract e a).map fun _ => e.approved a contract := by
  rw [verdict_eq, approve_eq_judge]
  split
  · rfl
  · rfl

theorem attempt_of_ok (h : policy.verdict scores contract e a = .ok ()) :
    policy.attempt scores contract e a = e.approved a contract := by
  rw [attempt, approve_eq_map, h]
  rfl

theorem attempt_of_error {fault : ApprovalError}
    (h : policy.verdict scores contract e a = .error fault) :
    policy.attempt scores contract e a = e := by
  rw [attempt, approve_eq_map, h]
  rfl

/-- **What is said of an approval does not depend on those before it**, as long as they came with
the same contract. -/
theorem verdict_attempt (e : Endorsement) (a b : Approval) :
    policy.verdict scores contract (policy.attempt scores contract e b) a =
      policy.verdict scores contract e a := by
  cases before : policy.verdict scores contract e b with
  | error fault => rw [attempt_of_error before]
  | ok passed =>
    rw [attempt_of_ok before, verdict_eq, verdict_eq, Endorsement.isBlank_approved,
      Bool.and_self_left]

theorem verdict_attempts (e : Endorsement) (approvals : List Approval) (a : Approval) :
    policy.verdict scores contract (policy.attempts scores contract e approvals) a =
      policy.verdict scores contract e a := by
  induction approvals generalizing e with
  | nil => rfl
  | cons b rest ih => rw [attempts_cons, ih, verdict_attempt]

/-- An approval that is not refused is there afterwards. -/
theorem mem_attempt (h : policy.verdict scores contract e a = .ok ()) :
    a ∈ (policy.attempt scores contract e a).approvals := by
  rw [attempt_of_ok h, Endorsement.approvals_approved]
  exact List.mem_append_right _ (List.mem_singleton_self a)

/-- An approval stays unless one comes that it conflicts with. -/
theorem mem_attempt_of_mem (there : a ∈ e.approvals) (apart : a.conflictsWith b = false) :
    a ∈ (policy.attempt scores contract e b).approvals := by
  cases verdict : policy.verdict scores contract e b with
  | error fault => rwa [attempt_of_error verdict]
  | ok passed =>
    rw [attempt_of_ok verdict, Endorsement.approvals_approved]
    exact List.mem_append_left _ (List.mem_filter.2 ⟨there, by rw [apart]; rfl⟩)

theorem mem_attempts_of_mem {approvals : List Approval} (there : a ∈ e.approvals)
    (apart : ∀ b ∈ approvals, a.conflictsWith b = false) :
    a ∈ (policy.attempts scores contract e approvals).approvals := by
  induction approvals generalizing e with
  | nil => exact there
  | cons b rest ih =>
    obtain ⟨first, others⟩ := List.forall_mem_cons.1 apart
    rw [attempts_cons]
    exact ih (mem_attempt_of_mem there first) others

/-- **Of approvals that do not conflict, all that are not refused are there in the end.** -/
theorem mem_attempts {approvals : List Approval}
    (apart : approvals.Pairwise fun a b => a.conflictsWith b = false) (attempted : a ∈ approvals)
    (h : policy.verdict scores contract e a = .ok ()) :
    a ∈ (policy.attempts scores contract e approvals).approvals := by
  induction approvals generalizing e with
  | nil => exact absurd attempted List.not_mem_nil
  | cons b rest ih =>
    obtain ⟨first, others⟩ := List.pairwise_cons.1 apart
    rw [attempts_cons]
    rcases List.mem_cons.1 attempted with rfl | later
    · exact mem_attempts_of_mem (mem_attempt h) first
    · exact ih others later ((verdict_attempt e a b).trans h)

/-- **An approval that has been recorded is recorded again without a change.** -/
theorem approve_again {e' : Endorsement} (h : policy.approve scores e a contract = .ok e') :
    policy.approve scores e' a contract = .ok e' := by
  have passed : policy.verdict scores contract e a = .ok () := by rw [verdict, h]; rfl
  have recorded : e' = e.approved a contract := by
    rw [approve_eq_map, passed] at h
    exact (Except.ok.inj h).symm
  have again := @verdict_attempt policy scores contract e a a
  rw [attempt_of_ok passed, passed] at again
  rw [recorded, approve_eq_map, again, Except.map, Endorsement.approved_approved_self]

/-- **Two approvals that do not conflict may be attempted in either order.** -/
theorem attempt_comm (apart : a.conflictsWith b = false) (e : Endorsement) :
    (policy.attempt scores contract (policy.attempt scores contract e a) b).Agrees
      (policy.attempt scores contract (policy.attempt scores contract e b) a) := by
  have first := @verdict_attempt policy scores contract e b a
  have second := @verdict_attempt policy scores contract e a b
  cases ha : policy.verdict scores contract e a with
  | error fault =>
    rw [ha] at second
    rw [attempt_of_error ha, attempt_of_error second]
    exact .refl _
  | ok passed =>
    cases hb : policy.verdict scores contract e b with
    | error fault =>
      rw [hb] at first
      rw [attempt_of_error hb, attempt_of_error first]
      exact .refl _
    | ok passed' =>
      rw [ha] at second
      rw [hb] at first
      rw [attempt_of_ok first, attempt_of_ok ha, attempt_of_ok second, attempt_of_ok hb]
      exact Endorsement.approved_comm apart e contract

end Policy

/-! ## Attempts that come in any order -/

section Order

variable {policy : Policy} {scores : ScoreSource} {contract : String} {e f : Endorsement}

/-- An attempt does the same to endorsements that agree. -/
theorem Endorsement.Agrees.attempt (h : e.Agrees f) (a : Approval) :
    (policy.attempt scores contract e a).Agrees (policy.attempt scores contract f a) := by
  have same : policy.verdict scores contract e a = policy.verdict scores contract f a := by
    rw [Policy.verdict_eq, Policy.verdict_eq, h.contract]
  cases verdict : policy.verdict scores contract f a with
  | error fault =>
    rw [verdict] at same
    rwa [Policy.attempt_of_error same, Policy.attempt_of_error verdict]
  | ok passed =>
    rw [verdict] at same
    rw [Policy.attempt_of_ok same, Policy.attempt_of_ok verdict]
    exact h.approved a contract

theorem Endorsement.Agrees.attempts (h : e.Agrees f) (approvals : List Approval) :
    (policy.attempts scores contract e approvals).Agrees
      (policy.attempts scores contract f approvals) := by
  induction approvals generalizing e f with
  | nil => exact h
  | cons a rest ih =>
    rw [Policy.attempts_cons, Policy.attempts_cons]
    exact ih (h.attempt a)

/-- **Any number of approvals that do not conflict may be attempted in any order.** -/
theorem Policy.attempts_perm {approvals approvals' : List Approval}
    (order : approvals.Perm approvals')
    (apart : approvals.Pairwise fun a b => a.conflictsWith b = false) (e : Endorsement) :
    (policy.attempts scores contract e approvals).Agrees
      (policy.attempts scores contract e approvals') := by
  induction order generalizing e with
  | nil => exact .refl _
  | cons a order ih =>
    rw [Policy.attempts_cons, Policy.attempts_cons]
    exact ih (List.pairwise_cons.1 apart).2 _
  | swap a b rest =>
    have conflict := (List.pairwise_cons.1 apart).1 a (List.mem_cons_self ..)
    rw [Policy.attempts_cons, Policy.attempts_cons, Policy.attempts_cons, Policy.attempts_cons]
    exact (Policy.attempt_comm conflict e).attempts rest
  | trans order order' ih ih' =>
    have symmetric : ∀ {a b : Approval}, a.conflictsWith b = false → b.conflictsWith a = false :=
      fun {a b} h => by rwa [Approval.conflictsWith_comm]
    exact (ih apart e).trans (ih' (order.pairwise apart symmetric) e)

end Order

/-! ## Records -/

namespace Governed

variable {ρ σ : Type} [Record ρ] [Lifecycle σ] [Governed ρ σ] {policy : Policy}
  {scores : ScoreSource} {contract : String} {record : ρ} {a : Approval}

/-- What an officer is told about an approval of a record. -/
def verdict (policy : Policy) (scores : ScoreSource) (contract : String) (record : ρ)
    (a : Approval) : Except RecordError Unit :=
  (endorse policy scores record a contract).map fun _ => ()

/-- The record after an attempt to approve it.  One that is refused leaves it as it was. -/
def attempt (policy : Policy) (scores : ScoreSource) (contract : String) (record : ρ)
    (a : Approval) : ρ :=
  match endorse policy scores record a contract with
  | .error _ => record
  | .ok record' => record'

/-- Records differ in nothing but the order of their approvals. -/
structure Agrees (x y : ρ) : Prop where
  endorsement : (endorsement x).Agrees (Governed.endorsement y)
  others : withEndorsement x (Governed.endorsement y) = y

theorem verdict_eq_mapError : verdict policy scores contract record a =
    (policy.verdict scores contract (endorsement record) a).mapError .approval := by
  rw [verdict, endorse, Policy.verdict]
  cases policy.approve scores (endorsement record) a contract with
  | error fault => rfl
  | ok e => rfl

theorem verdict_eq_ok_iff : verdict policy scores contract record a = .ok () ↔
    policy.verdict scores contract (endorsement record) a = .ok () := by
  rw [verdict_eq_mapError]
  cases policy.verdict scores contract (endorsement record) a with
  | error fault => exact ⟨nofun, nofun⟩
  | ok passed => exact ⟨fun _ => rfl, fun _ => rfl⟩

/-- An attempt to approve a record is one on its endorsement. -/
theorem attempt_eq_withEndorsement : attempt policy scores contract record a =
    withEndorsement record (policy.attempt scores contract (endorsement record) a) := by
  rw [attempt, endorse, Policy.attempt]
  cases policy.approve scores (endorsement record) a contract with
  | error fault => exact (withEndorsement_endorsement record).symm
  | ok e => rfl

@[simp] theorem endorsement_attempt : endorsement (attempt policy scores contract record a) =
    policy.attempt scores contract (endorsement record) a := by
  rw [attempt_eq_withEndorsement, endorsement_withEndorsement]

/-- An attempt to approve a record changes nothing but its endorsement. -/
@[simp] theorem withEndorsement_attempt (record : ρ) (a : Approval) (e : Endorsement) :
    withEndorsement (attempt policy scores contract record a) e = withEndorsement record e := by
  rw [attempt_eq_withEndorsement, withEndorsement_withEndorsement]

theorem verdict_attempt (record : ρ) (a b : Approval) :
    verdict policy scores contract (attempt policy scores contract record b) a =
      verdict policy scores contract record a := by
  rw [verdict_eq_mapError, verdict_eq_mapError, endorsement_attempt, Policy.verdict_attempt]

/-- An approval of a record that has been recorded is recorded again without a change. -/
theorem endorse_again {record' : ρ} (h : endorse policy scores record a contract = .ok record') :
    endorse policy scores record' a contract = .ok record' := by
  rw [endorse] at h
  cases recorded : policy.approve scores (endorsement record) a contract with
  | error fault =>
    rw [recorded] at h
    cases h
  | ok e =>
    rw [recorded] at h
    cases h
    rw [endorse, endorsement_withEndorsement, Policy.approve_again recorded]
    exact congrArg Except.ok (withEndorsement_withEndorsement record e e)

/-- Two approvals of a record that do not conflict may be attempted in either order. -/
theorem attempt_comm {b : Approval} (apart : a.conflictsWith b = false) (record : ρ) :
    Agrees (attempt policy scores contract (attempt policy scores contract record a) b)
      (attempt policy scores contract (attempt policy scores contract record b) a) where
  endorsement := by
    rw [endorsement_attempt, endorsement_attempt, endorsement_attempt, endorsement_attempt]
    exact Policy.attempt_comm apart (endorsement record)
  others := by
    rw [withEndorsement_attempt, withEndorsement_attempt, ← withEndorsement_attempt record b,
      ← withEndorsement_attempt _ a]
    exact withEndorsement_endorsement _

/-- Of two approvals of a record that do not conflict, those that are not refused are there in the
end. -/
theorem mem_attempt_attempt {b c : Approval} (apart : a.conflictsWith b = false)
    (attempted : c ∈ [a, b]) (h : verdict policy scores contract record c = .ok ()) :
    c ∈ (endorsement (attempt policy scores contract
      (attempt policy scores contract record a) b)).approvals := by
  have pair : [a, b].Pairwise fun a b => a.conflictsWith b = false := List.pairwise_pair.2 apart
  rw [endorsement_attempt, endorsement_attempt]
  exact Policy.mem_attempts pair attempted (verdict_eq_ok_iff.1 h)

/-- **Approvals may come again and in any order.**  One that has been recorded is recorded again
without a change.  Of two that do not conflict, each is recorded or refused in the same way
whichever comes first, and the records that come out hold those that are recorded and differ in the
order of their approvals only; so they have the same quorums, whatever these ask for and whenever
they are called on. -/
theorem order_free (policy : Policy) (scores : ScoreSource) (record : ρ) (contract : String) :
    (∀ a record', endorse policy scores record a contract = .ok record' →
      endorse policy scores record' a contract = .ok record') ∧
    ∀ a b, a.conflictsWith b = false →
      let after := attempt policy scores contract record
      let first := attempt policy scores contract (after a) b
      let second := attempt policy scores contract (after b) a
      verdict policy scores contract (after b) a = verdict policy scores contract record a ∧
      verdict policy scores contract (after a) b = verdict policy scores contract record b ∧
      (∀ c ∈ [a, b], verdict policy scores contract record c = .ok () →
        c ∈ (endorsement first).approvals) ∧
      Agrees first second ∧
      ∀ quorum later, Quorum.ensure quorum later (endorsement first) = .ok () ↔
        quorum.ensure later (endorsement second) = .ok () := by
  refine ⟨fun a record' recorded => endorse_again recorded, fun a b apart => ?_⟩
  intro after first second
  have agree : Agrees first second := attempt_comm apart record
  exact ⟨verdict_attempt record a b, verdict_attempt record b a,
    fun c attempted recorded => mem_attempt_attempt apart attempted recorded, agree,
    agree.endorsement.ensure_iff⟩

/-- Short addresses and two approvals. -/
def twoApprovals : Policy := ⟨⟨"x", 1⟩, ⟨2, 80⟩⟩

/-- The scorecards of two officers. -/
def twoRated : ScoreSource := (Scoreboard.ofList [⟨1, "xaa", "honesty", 90, 1, "", "xaa"⟩,
  ⟨2, "xbb", "honesty", 80, 1, "", "xaa"⟩]).source

/-- The approval of the first officer. -/
def treasurer : Approval := ⟨"xAA", "treasurer", 1, "first"⟩

/-- The approval of the second one. -/
def auditor : Approval := ⟨"xbb", "auditor", 2, "second"⟩

/-- A budget with approvals that conflict with each other.  The first one conflicts with both of the
above: it is the treasurer's, made as an auditor. -/
def disputedRoads : Budget :=
  { Budget.drafted "works" "2025" "roads" ⟨9, by decide⟩ "EUR" "xaa" with
    id := 1
    endorsement :=
      ⟨"contract", [⟨"XAA", " Auditor", 1, "early"⟩, ⟨"xcc", "auditor", 3, "late"⟩]⟩ }

/-- The treasurer and the auditor approve the budget one after the other, and it is the same budget
in another order whoever is first; either way there is a quorum.  Once the treasurer has approved
it, another time changes nothing. -/
theorem order_free_disputedRoads :
    let after := attempt twoApprovals twoRated ""
    let first := after (after disputedRoads treasurer) auditor
    let second := after (after disputedRoads auditor) treasurer
    endorse twoApprovals twoRated (after disputedRoads treasurer) treasurer "" =
        .ok (after disputedRoads treasurer) ∧
      first ≠ second ∧ Agrees first second ∧
      twoApprovals.quorum.ensure twoRated (endorsement first) = .ok () ∧
      twoApprovals.quorum.ensure twoRated (endorsement second) = .ok () := by
  obtain ⟨again, either⟩ := order_free twoApprovals twoRated disputedRoads ""
  obtain ⟨-, -, -, agree, quorum⟩ := either treasurer auditor (by decide)
  have recorded : endorse twoApprovals twoRated disputedRoads treasurer "" =
      .ok (attempt twoApprovals twoRated "" disputedRoads treasurer) := by decide +kernel
  have other : attempt twoApprovals twoRated ""
      (attempt twoApprovals twoRated "" disputedRoads treasurer) auditor ≠
        attempt twoApprovals twoRated ""
          (attempt twoApprovals twoRated "" disputedRoads auditor) treasurer := by decide +kernel
  have met : twoApprovals.quorum.ensure twoRated (endorsement (attempt twoApprovals twoRated ""
      (attempt twoApprovals twoRated "" disputedRoads treasurer) auditor)) = .ok () := by
    decide +kernel
  exact ⟨again treasurer _ recorded, other, agree, met,
    (quorum twoApprovals.quorum twoRated).1 met⟩

end Governed

end PublicFunds
