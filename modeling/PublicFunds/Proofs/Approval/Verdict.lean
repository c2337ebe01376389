import PublicFunds.Proofs.Lifecycle.Change

/-!
# What a quorum and an approval are refused for

Calling on a quorum and recording an approval go through some checks in a row, and the first that
fails is the one that is reported.  Here every report is tied to what is wrong, and all that comes
before it to what is right, without the checks themselves: a scorecard is missing, is about someone
else, or is too low; an approval lacks something; its signer is no address.

Recording an approval also looks for earlier ones that conflict with it, after all of these have
been dropped.  So it never finds any.

* `Quorum.Backed`, `Quorum.Unbacked`: the scorecard behind an approval, or what is wrong with it.
* `Quorum.Stands`, `Quorum.ensure_of_unbacked`: a quorum, or the first approval that is not backed.
* `Quorum.ensure_eq_ok_iff`: when there is a quorum.
* `Approval.Complete`, `Approval.Lacks`: a complete approval, or what it lacks.
* `Policy.approve_eq`: recording an approval without the search for conflicts.
* `Endorsement.check_of_pairwise`, `Endorsement.check_approved`: what the endorsement of a record
  passes.
-/

namespace PublicFunds

/-! ## Scorecards behind approvals -/

namespace Quorum

/-- The scorecard behind an approval is there, is about the signer, and is high enough. -/
def Backed (q : Quorum) (scores : ScoreSource) (a : Approval) : Prop :=
  ∃ card, scores a.scorecard = .ok (some card) ∧ NameKey.of card.subject = a.signerKey ∧
    q.minScore ≤ card.score

/-- What is wrong with the scorecard behind an approval. -/
inductive Unbacked (q : Quorum) (scores : ScoreSource) (a : Approval) : ApprovalError → Prop where
  /-- It cannot be looked up. -/
  | unread {e : RegisterError} (failed : scores a.scorecard = .error e) :
      Unbacked q scores a (.register e)
  /-- It does not exist. -/
  | missing (absent : scores a.scorecard = .ok none) :
      Unbacked q scores a (.scoreMissing a.scorecard)
  /-- It is about someone else. -/
  | mismatch {card : Scorecard} (found : scores a.scorecard = .ok (some card))
      (other : NameKey.of card.subject ≠ a.signerKey) :
      Unbacked q scores a (.scoreMismatch card.id card.subject a.signer)
  /-- It is about the signer, and too low. -/
  | tooLow {card : Scorecard} (found : scores a.scorecard = .ok (some card))
      (own : NameKey.of card.subject = a.signerKey) (low : card.score < q.minScore) :
      Unbacked q scores a (.scoreTooLow card.id card.score q.minScore)

variable {q : Quorum} {scores : ScoreSource} {a : Approval} {e : Endorsement}

theorem checkBacking_of_backed (h : q.Backed scores a) : q.checkBacking scores a = .ok () := by
  obtain ⟨card, found, own, high⟩ := h
  unfold checkBacking
  simp only [found]
  refine Check.all_eq_ok_iff.2 ?_
  simp [own, high]

theorem checkBacking_of_unbacked {report : ApprovalError} (h : q.Unbacked scores a report) :
    q.checkBacking scores a = .error report := by
  unfold checkBacking
  cases h with
  | unread failed => simp only [failed]
  | missing absent => simp only [absent]
  | mismatch found other => simp only [found, beq_eq_false_iff_ne.2 other, Check.require, Check.all,
      Bool.false_eq_true, if_false]
  | tooLow found own low =>
    simp only [found, own, BEq.rfl, Check.require, UInt32.not_le.2 low, Check.all, decide_false,
      Bool.false_eq_true, if_true, if_false]

/-- Whatever is behind an approval, it is backed or something is wrong. -/
theorem backed_or_unbacked (q : Quorum) (scores : ScoreSource) (a : Approval) :
    q.Backed scores a ∨ ∃ report, q.Unbacked scores a report := by
  cases looked : scores a.scorecard with
  | error e => exact .inr ⟨_, .unread looked⟩
  | ok result =>
    cases result with
    | none => exact .inr ⟨_, .missing looked⟩
    | some card =>
      by_cases own : NameKey.of card.subject = a.signerKey
      · by_cases low : card.score < q.minScore
        · exact .inr ⟨_, .tooLow looked own low⟩
        · exact .inl ⟨card, looked, own, UInt32.not_lt.1 low⟩
      · exact .inr ⟨_, .mismatch looked own⟩

/-- The check of what is behind an approval passes exactly if the approval is backed. -/
theorem checkBacking_eq_ok_iff : q.checkBacking scores a = .ok () ↔ q.Backed scores a := by
  refine ⟨fun h => ?_, checkBacking_of_backed⟩
  rcases q.backed_or_unbacked scores a with backed | ⟨report, unbacked⟩
  · exact backed
  · rw [checkBacking_of_unbacked unbacked] at h
    cases h

/-- Some approvals are all backed, or there is a first one that is not. -/
theorem backed_or_first_unbacked (q : Quorum) (scores : ScoreSource) (approvals : List Approval) :
    (∀ a ∈ approvals, q.Backed scores a) ∨
      ∃ front a back report, approvals = front ++ a :: back ∧ (∀ b ∈ front, q.Backed scores b) ∧
        q.Unbacked scores a report := by
  induction approvals with
  | nil => exact .inl fun a ha => absurd ha List.not_mem_nil
  | cons first rest ih =>
    rcases q.backed_or_unbacked scores first with backed | ⟨report, unbacked⟩
    · rcases ih with all | ⟨front, a, back, report, rfl, before, unbacked⟩
      · exact .inl (List.forall_mem_cons.2 ⟨backed, all⟩)
      · exact .inr ⟨first :: front, a, back, report, rfl, List.forall_mem_cons.2 ⟨backed, before⟩,
          unbacked⟩
    · exact .inr ⟨[], first, rest, report, rfl, fun b hb => absurd hb List.not_mem_nil, unbacked⟩

/-! ## Calling on a quorum -/

/-- There are enough approvals, and all are backed. -/
structure Stands (q : Quorum) (scores : ScoreSource) (e : Endorsement) : Prop where
  enough : q.minApprovals.toNat ≤ e.approvals.length
  backed : ∀ a ∈ e.approvals, q.Backed scores a

theorem ensure_of_blank (blank : Text.isBlank e.contract = true) :
    q.ensure scores e = .error .contractMissing := by
  rw [ensure, Endorsement.hasContract, blank]
  rfl

section Contract

variable (given : Text.isBlank e.contract = false)

include given

theorem ensure_of_few (few : e.approvals.length < q.minApprovals.toNat) :
    q.ensure scores e = .error (.tooFew q.minApprovals.toNat e.approvals.length) := by
  rw [ensure, Endorsement.hasContract, given, Bool.not_false, Bool.not_true,
    if_neg Bool.false_ne_true, if_pos few]

variable (enough : q.minApprovals.toNat ≤ e.approvals.length)

include enough

/-- Once there are a contract and enough approvals, a quorum depends on what is behind them. -/
theorem ensure_eq_all : q.ensure scores e = Check.all (e.approvals.map (q.checkBacking scores)) := by
  rw [ensure, Endorsement.hasContract, given, Bool.not_false, Bool.not_true,
    if_neg Bool.false_ne_true, if_neg (Nat.not_lt_of_le enough)]

/-- **The first approval that is not backed is reported.** -/
theorem ensure_of_unbacked {front back : List Approval} {report : ApprovalError}
    (split : e.approvals = front ++ a :: back) (before : ∀ b ∈ front, q.Backed scores b)
    (unbacked : q.Unbacked scores a report) : q.ensure scores e = .error report := by
  rw [ensure_eq_all given enough, split, List.map_append, List.map_cons, Check.all_append,
    checkBacking_of_unbacked unbacked]
  · rfl
  · intro check hcheck
    obtain ⟨b, hb, rfl⟩ := List.mem_map.1 hcheck
    exact checkBacking_of_backed (before b hb)

end Contract

theorem ensure_of_stands (given : Text.isBlank e.contract = false) (stands : q.Stands scores e) :
    q.ensure scores e = .ok () := by
  rw [ensure_eq_all given stands.enough, Check.all_eq_ok_iff]
  intro check hcheck
  obtain ⟨b, hb, rfl⟩ := List.mem_map.1 hcheck
  exact checkBacking_of_backed (stands.backed b hb)

/-- **A quorum is there exactly if it stands under a contract.** -/
theorem ensure_eq_ok_iff :
    q.ensure scores e = .ok () ↔ Text.isBlank e.contract = false ∧ q.Stands scores e := by
  refine ⟨fun passed => ?_, fun ⟨given, stands⟩ => ensure_of_stands given stands⟩
  cases given : Text.isBlank e.contract with
  | true =>
    rw [ensure_of_blank given] at passed
    cases passed
  | false =>
    rcases Nat.lt_or_ge e.approvals.length q.minApprovals.toNat with few | enough
    · rw [ensure_of_few given few] at passed
      cases passed
    · rw [ensure_eq_all given enough, Check.all_eq_ok_iff] at passed
      exact ⟨rfl, enough, fun a ha => checkBacking_eq_ok_iff.1 (passed _ (List.mem_map_of_mem ha))⟩

end Quorum

/-! ## Complete approvals -/

namespace Approval

/-- Everything is there that an approval is made of. -/
structure Complete (a : Approval) : Prop where
  signer : Text.isBlank a.signer = false
  role : Text.isBlank a.role = false
  scorecard : a.scorecard ≠ 0
  signature : Text.isBlank a.signatureUri = false

/-- The first thing that an approval lacks. -/
inductive Lacks (a : Approval) : Defect → Prop where
  | signer (blank : Text.isBlank a.signer = true) : Lacks a (.missing "signer address")
  | role (signer : Text.isBlank a.signer = false) (blank : Text.isBlank a.role = true) :
      Lacks a (.missing "role")
  | scorecard (signer : Text.isBlank a.signer = false) (role : Text.isBlank a.role = false)
      (zero : a.scorecard = 0) : Lacks a (.unset "scorecard id")
  | signature (signer : Text.isBlank a.signer = false) (role : Text.isBlank a.role = false)
      (scorecard : a.scorecard ≠ 0) (blank : Text.isBlank a.signatureUri = true) :
      Lacks a (.missing "signature_uri")

variable {a : Approval} {format : AddressFormat}

/-- An approval is complete or lacks something. -/
theorem complete_or_lacks (a : Approval) : a.Complete ∨ ∃ defect, a.Lacks defect := by
  cases signer : Text.isBlank a.signer with
  | true => exact .inr ⟨_, .signer signer⟩
  | false =>
    cases role : Text.isBlank a.role with
    | true => exact .inr ⟨_, .role signer role⟩
    | false =>
      by_cases scorecard : a.scorecard = 0
      · exact .inr ⟨_, .scorecard signer role scorecard⟩
      · cases signature : Text.isBlank a.signatureUri with
        | true => exact .inr ⟨_, .signature signer role scorecard signature⟩
        | false => exact .inl ⟨signer, role, scorecard, signature⟩

theorem checkContent_of_complete (h : a.Complete) : a.checkContent = .ok () := by
  refine Check.all_eq_ok_iff.2 ?_
  simp [h.signer, h.role, h.scorecard, h.signature]

theorem checkContent_of_lacks {defect : Defect} (h : a.Lacks defect) :
    a.checkContent = .error (.invalid defect) := by
  unfold checkContent
  cases h with
  | signer blank => simp [blank, Check.require, Check.all]
  | role signer blank => simp [signer, blank, Check.require, Check.all]
  | scorecard signer role zero => simp [signer, role, zero, Check.require, Check.all]
  | signature signer role scorecard blank =>
    simp [signer, role, scorecard, blank, Check.require, Check.all]

theorem check_of_lacks {defect : Defect} (h : a.Lacks defect) :
    a.check format = .error (.invalid defect) := by
  rw [check, checkContent_of_lacks h]
  rfl

/-- The check of a complete approval is that of its signer. -/
theorem check_of_complete (h : a.Complete) :
    a.check format = (format.check a.signer).mapError (.badSigner a.signer) := by
  rw [check, checkContent_of_complete h]
  exact Check.all_singleton _

theorem check_of_badSigner (h : a.Complete) {fault : AddressFault}
    (bad : format.decode a.signer = .error fault) :
    a.check format = .error (.badSigner a.signer fault) := by
  rw [check_of_complete h, AddressFormat.check, bad]
  rfl

theorem check_of_decode (h : a.Complete) {raw : Bytes} (good : format.decode a.signer = .ok raw) :
    a.check format = .ok () := by
  rw [check_of_complete h, AddressFormat.check, good]
  rfl

end Approval

/-! ## Endorsements that pass -/

namespace Endorsement

variable {format : AddressFormat} {e : Endorsement}

/-- Approvals that pass their own check, conflict with none before them and not with each other, go
with those before them. -/
theorem checkAfter_of_pairwise {earlier approvals : List Approval}
    (each : ∀ a ∈ approvals, a.check format = .ok ())
    (before : ∀ a ∈ approvals, ∀ b ∈ earlier, a.conflictsWith b = false)
    (apart : approvals.Pairwise fun a b => a.conflictsWith b = false) :
    checkAfter format earlier approvals = .ok () := by
  induction approvals generalizing earlier with
  | nil => rfl
  | cons a rest ih =>
    obtain ⟨first, apart⟩ := List.pairwise_cons.1 apart
    have free : earlier.any a.conflictsWith = false :=
      List.any_eq_false.2 fun b hb => Bool.not_eq_true _ ▸ before a (List.mem_cons_self ..) b hb
    rw [checkAfter, each a (List.mem_cons_self ..)]
    simp only [free, Bool.false_eq_true, if_false]
    refine ih (fun b hb => each b (List.mem_cons_of_mem _ hb)) (fun b hb c hc => ?_) apart
    rcases List.mem_cons.1 hc with rfl | hc
    · rw [Approval.conflictsWith_comm]
      exact first b hb
    · exact before b (List.mem_cons_of_mem _ hb) c hc

/-- **What an endorsement passes**: with approvals that go together, it is refused exactly if the
record is under way and there is no contract. -/
theorem check_of_pairwise (each : ∀ a ∈ e.approvals, a.check format = .ok ())
    (apart : e.approvals.Pairwise fun a b => a.conflictsWith b = false) (underWay : Bool) :
    e.check format underWay =
      if underWay && Text.isBlank e.contract then .error .contractMissing else .ok () := by
  rw [check, hasContract, Bool.not_not,
    checkAfter_of_pairwise each (fun _ _ _ hb => absurd hb List.not_mem_nil) apart]

/-- An endorsement with one more approval, in the place of all that share its role or its signer.
The contract is the one that is given with it, unless this is blank. -/
def approved (e : Endorsement) (a : Approval) (contract : String) : Endorsement where
  contract := if Text.isBlank contract then e.contract else contract
  approvals := e.approvals.filter (fun earlier =>
    earlier.roleKey ≠ a.roleKey ∧ earlier.signerKey ≠ a.signerKey) ++ [a]

theorem contract_approved (e : Endorsement) (a : Approval) (contract : String) :
    (e.approved a contract).contract = if Text.isBlank contract then e.contract else contract :=
  rfl

theorem approvals_approved (e : Endorsement) (a : Approval) (contract : String) :
    (e.approved a contract).approvals =
      e.approvals.filter (fun earlier => !earlier.conflictsWith a) ++ [a] := by
  refine congrArg (· ++ [a]) (List.filter_congr fun earlier _ => ?_)
  rw [Bool.eq_iff_iff]
  simp [Approval.conflictsWith]

/-- There is a contract, or one is given. -/
def Contracted (e : Endorsement) (contract : String) : Prop :=
  Text.isBlank contract = false ∨ Text.isBlank e.contract = false

theorem isBlank_approved {a : Approval} {contract : String} :
    Text.isBlank (e.approved a contract).contract =
      (Text.isBlank contract && Text.isBlank e.contract) := by
  unfold approved
  by_cases given : Text.isBlank contract = true
  · simp [given]
  · simp [given]

theorem Contracted.isBlank_approved {a : Approval} {contract : String}
    (h : e.Contracted contract) : Text.isBlank (e.approved a contract).contract = false := by
  rw [Endorsement.isBlank_approved]
  exact Bool.and_eq_false_iff.2 h

/-- There is a contract, or there is none and none is given. -/
theorem contracted_or_blank (e : Endorsement) (contract : String) : e.Contracted contract ∨
    Text.isBlank contract = true ∧ Text.isBlank e.contract = true := by
  unfold Contracted
  cases Text.isBlank contract <;> cases Text.isBlank e.contract <;> simp

/-- **One more approval goes together with those that stay**, so the endorsement passes. -/
theorem check_approved {a : Approval} {contract : String}
    (each : ∀ b ∈ e.approvals, b.check format = .ok ())
    (apart : e.approvals.Pairwise fun b c => b.conflictsWith c = false)
    (own : a.check format = .ok ())
    (given : Text.isBlank (e.approved a contract).contract = false) (underWay : Bool) :
    (e.approved a contract).check format underWay = .ok () := by
  rw [check_of_pairwise, given, Bool.and_false]
  · rfl
  · rw [approvals_approved]
    intro b hb
    rcases List.mem_append.1 hb with stays | new
    · exact each b (List.mem_filter.1 stays).1
    · rw [List.mem_singleton.1 new]
      exact own
  · rw [approvals_approved, List.pairwise_append]
    refine ⟨apart.filter _, List.pairwise_singleton _ _, fun b hb c hc => ?_⟩
    rw [List.mem_singleton.1 hc]
    simpa using (List.mem_filter.1 hb).2

end Endorsement

/-! ## Recording an approval -/

namespace Policy

variable {policy : Policy} {scores : ScoreSource} {e : Endorsement} {a : Approval}
  {contract : String}

theorem approve_of_blank (blank : Text.isBlank (e.approved a contract).contract = true) :
    policy.approve scores e a contract = .error .contractMissing := by
  unfold approve
  exact if_pos blank

/-- **The search for conflicts finds none**: once there is a contract, recording an approval depends
on its own check and on what is behind it. -/
theorem approve_eq (given : Text.isBlank (e.approved a contract).contract = false) :
    policy.approve scores e a contract =
      match a.check policy.addresses with
      | .error fault => .error fault
      | .ok () =>
        match policy.quorum.checkBacking scores a with
        | .error fault => .error fault
        | .ok () => .ok (e.approved a contract) := by
  have dropped : (e.approvals.filter fun earlier => !earlier.conflictsWith a).any
      (fun earlier => earlier.conflictsWith a) = false := by
    refine List.any_eq_false.2 fun b hb => ?_
    simpa using (List.mem_filter.1 hb).2
  have whole : (⟨if Text.isBlank contract then e.contract else contract,
      e.approvals.filter (fun earlier => !earlier.conflictsWith a) ++ [a]⟩ : Endorsement) =
      e.approved a contract :=
    congrArg (Endorsement.mk _) (Endorsement.approvals_approved e a contract).symm
  unfold approve
  simp only [dropped, Bool.false_eq_true, if_false, whole]
  exact if_neg (Bool.eq_false_iff.1 given)

end Policy

end PublicFunds
