import Mathlib.Data.List.Infix
import PublicFunds.Proofs.Ledger.GatedStep
import PublicFunds.Proofs.Ledger.Loading
import PublicFunds.Proofs.Ledger.Orderly
import PublicFunds.Proofs.Lifecycle.Verdict

/-!
# The verdict on every step and every approval

What a budget, a procurement or a disbursement answers when it is asked to take a step, or is
approved, can be said in advance from the record as it is stored and from the scores at that moment.
The verdicts are listed here in the order in which they are reached, each with everything that has
to be otherwise for it to be reached.  Whatever is refused leaves the ledger as it is, and so does a
step to the status that the record has.

The same list holds for all three kinds, after every history.  The store of the record has to be in
good health, since nothing can be said of one that fails.  The scores may come from anywhere, and
looking one up may fail.

* `Ledger.Refuses`, `Ledger.Puts`: an operation that is refused, and one that stores a record.
* `Ledger.Advances`, `Ledger.advances_history`: the verdicts on a step.
* `Ledger.Endorses`, `Ledger.endorses_history`: the verdicts on an approval.
* `Ledger.AdvancesFrom.succeeds_iff`, `Ledger.EndorsesFrom.succeeds_iff`: the lists are complete, so
  they also say when an operation succeeds.
-/

namespace PublicFunds

open Register

namespace Ledger

/-! ## Answers of an operation -/

/-- An operation is refused, and the ledger stays as it is. -/
def Refuses (ledger : Ledger) (sources : Sources) (op : Operation) (e : RecordError) : Prop :=
  ledger.performWith sources op = (.error (.refused e), ledger)

/-- An operation succeeds. -/
def Succeeds (ledger : Ledger) (sources : Sources) (op : Operation) : Prop :=
  ∃ answer, (ledger.performWith sources op).1 = .ok answer

/-- An operation succeeds, and all that it does is to write a record under its id. -/
structure Puts {ρ : Type} [Record ρ] (ledger : Ledger) (sources : Sources) (op : Operation)
    (answer : Outcome) (r : Register ρ) (x : ρ) : Prop where
  answered : (ledger.performWith sources op).1 = .ok answer
  written : ((ledger.performWith sources op).2.store op.book).entries =
    (ledger.store op.book).entries.apply [r.entry x]
  others : ∀ b, b ≠ op.book → (ledger.performWith sources op).2.store b = ledger.store b
  /-- It is found there, if it is not too long to be read back. -/
  found : (ledger.performWith sources op).2.Within (Bytes.reach 8) →
    r.find ((ledger.performWith sources op).2.store op.book) (Record.id x) = .ok (some x)

section Answers

variable {ledger : Ledger} {sources : Sources} {op : Operation}

/-- What is refused does not succeed. -/
theorem Refuses.not_succeeds {e : RecordError} (h : ledger.Refuses sources op e) :
    ¬ ledger.Succeeds sources op := by
  rintro ⟨answer, performed⟩
  rw [h] at performed
  cases performed

/-- What is refused is refused for one reason only. -/
theorem Refuses.fst_ne {e e' : RecordError} (h : ledger.Refuses sources op e) (other : e ≠ e') :
    (ledger.performWith sources op).1 ≠ .error (.refused e') := by
  rw [h]
  rintro ⟨⟩
  exact other rfl

theorem Puts.succeeds {ρ : Type} [Record ρ] {answer : Outcome} {r : Register ρ} {x : ρ}
    (h : ledger.Puts sources op answer r x) : ledger.Succeeds sources op :=
  ⟨answer, h.answered⟩

variable {ρ : Type} {changed : ρ → Outcome} {plan : Plan ρ}
  (planned : op.plan ledger.policy sources (ledger.store op.book) =
    Operation.answering plan changed)

include planned

/-- A plan that is refused is an operation that is refused. -/
theorem refuses_of_plan {e : RecordError} (h : plan = .error e) : ledger.Refuses sources op e :=
  performWith_of_error (planned.trans (congrArg (Operation.answering · changed) h))

/-- A plan that writes nothing leaves the ledger as it is. -/
theorem performWith_of_plan {x : ρ} (h : plan = .ok (x, [])) :
    ledger.performWith sources op = (.ok (changed x), ledger) :=
  performWith_of_nil (planned.trans (congrArg (Operation.answering · changed) h))

/-- A plan is carried out in a store in good health, which stays so. -/
theorem carriedOut_of_plan (healthy : (ledger.store op.book).Healthy) {x : ρ} {batch : Batch}
    (h : plan = .ok (x, batch)) :
    (ledger.performWith sources op).1 = .ok (changed x) ∧
      ((ledger.performWith sources op).2.store op.book).entries =
        (ledger.store op.book).entries.apply batch ∧
      ((ledger.performWith sources op).2.store op.book).Healthy := by
  have known : op.plan ledger.policy sources (ledger.store op.book) = .ok (changed x, batch) :=
    planned.trans (congrArg (Operation.answering · changed) h)
  obtain ⟨done, written⟩ := healthy.writable.carryOut (changed x) batch
  refine ⟨?_, ?_, ?_⟩
  · rw [performWith_fst, known, done]
    rfl
  · rw [store_performWith, known, written]
  · rw [store_performWith]
    exact healthy.after _

/-- A plan that writes one record is carried out in a store in good health. -/
theorem puts_of_plan [Record ρ] [FaithfulRecord ρ] {r : Register ρ}
    (healthy : (ledger.store op.book).Healthy) {x : ρ} (h : plan = .ok (x, [r.entry x])) :
    ledger.Puts sources op (changed x) r x := by
  obtain ⟨done, written, after⟩ := carriedOut_of_plan planned healthy h
  refine ⟨done, written, fun b other => ledger.store_performWith_of_ne sources other,
    fun within => ?_⟩
  have stored : ((ledger.performWith sources op).2.store op.book).entries.get?
      (Layout.idKey r.records (Record.id x)) = some ((Record.form : Form ρ).encode x) := by
    rw [written]
    exact OrderedMap.get?_insert_self ..
  have readBack : read (Record.kind ρ) (Record.form : Form ρ) ((Record.form : Form ρ).encode x) =
      .ok x :=
    read_encode FaithfulRecord.faithful _ (within op.book _ _ stored).2
  rw [find, after.find, stored]
  simp only [readBack, Except.map]

end Answers

section Kinds

variable {ρ σ : Type} [Record ρ] [Vetted ρ] [Lifecycle σ] [DecidableEq σ] [Governed ρ σ]

/-! ## Steps -/

/-- **The verdicts on a step** of a stored record, in the order in which they are reached.  `changed`
is how a record is answered. -/
structure AdvancesFrom (ledger : Ledger) (sources : Sources) (op : Operation) (r : Register ρ)
    (changed : ρ → Outcome) (x : ρ) (next : σ) : Prop where
  /-- The record has this status.  Nothing is written. -/
  already : Governed.status x = next →
    ledger.performWith sources op = (.ok (changed x), ledger)
  /-- No arrow leads there. -/
  apart : Governed.status x ≠ next → Lifecycle.follows (Governed.status x) next = false →
    ledger.Refuses sources op
      (.transition (Lifecycle.name (Governed.status x)) (Lifecycle.name next))
  /-- There is no contract, whether or not the step takes a quorum. -/
  bare : Lifecycle.follows (Governed.status x) next = true →
    Text.isBlank (Governed.endorsement x).contract = true →
    ledger.Refuses sources op (.approval .contractMissing)
  /-- The step takes a quorum, and there are too few approvals. -/
  few : Lifecycle.follows (Governed.status x) next = true →
    Text.isBlank (Governed.endorsement x).contract = false → Lifecycle.gated next = true →
    (Governed.endorsement x).approvals.length < ledger.policy.quorum.minApprovals.toNat →
    ledger.Refuses sources op (.approval (.tooFew ledger.policy.quorum.minApprovals.toNat
      (Governed.endorsement x).approvals.length))
  /-- The step takes a quorum, and there is an approval that is not backed.  The first one is
  reported. -/
  unbacked : Lifecycle.follows (Governed.status x) next = true →
    Text.isBlank (Governed.endorsement x).contract = false → Lifecycle.gated next = true →
    ledger.policy.quorum.minApprovals.toNat ≤ (Governed.endorsement x).approvals.length →
    ∀ front a back e, (Governed.endorsement x).approvals = front ++ a :: back →
      (∀ b ∈ front, ledger.policy.quorum.Backed sources.scores b) →
      ledger.policy.quorum.Unbacked sources.scores a e → ledger.Refuses sources op (.approval e)
  /-- The step is taken. -/
  moved : Lifecycle.follows (Governed.status x) next = true →
    Text.isBlank (Governed.endorsement x).contract = false →
    (Lifecycle.gated next = true →
      ledger.policy.quorum.Stands sources.scores (Governed.endorsement x)) →
    ledger.Puts sources op (changed (Governed.withStatus x next)) r (Governed.withStatus x next)
  /-- The checks of the record that comes out have nothing to add but that it needs a contract. -/
  checks : Lifecycle.follows (Governed.status x) next = true →
    Vetted.check ledger.policy.addresses (Governed.withStatus x next) =
      if Text.isBlank (Governed.endorsement x).contract then .error (.approval .contractMissing)
      else .ok ()

/-- **The verdicts on a step** of the record with an id, if there is one. -/
structure Advances (ledger : Ledger) (sources : Sources) (op : Operation) (r : Register ρ)
    (changed : ρ → Outcome) (id : RecordId) (next : σ) : Prop where
  known : ∃ found, r.find (ledger.store op.book) id = .ok found
  absent : r.find (ledger.store op.book) id = .ok none →
    ledger.Refuses sources op (.register (.notFound (Record.kind ρ) id))
  present : ∀ x, r.find (ledger.store op.book) id = .ok (some x) →
    ledger.AdvancesFrom sources op r changed x next
  /-- So a step is taken exactly if the rules allow it. -/
  succeeds : ∀ x, r.find (ledger.store op.book) id = .ok (some x) →
    (ledger.Succeeds sources op ↔ Governed.status x = next ∨
      (Lifecycle.follows (Governed.status x) next = true ∧
        Text.isBlank (Governed.endorsement x).contract = false ∧
        (Lifecycle.gated next = true →
          ledger.policy.quorum.Stands sources.scores (Governed.endorsement x))))

/-! ## Approvals -/

/-- **The verdicts on an approval** of a stored record, in the order in which they are reached.
`changed` is how a record is answered. -/
structure EndorsesFrom (ledger : Ledger) (sources : Sources) (op : Operation) (r : Register ρ)
    (changed : ρ → Outcome) (x : ρ) (a : Approval) (contract : String) : Prop where
  /-- There is no contract, and none is given. -/
  bare : Text.isBlank contract = true → Text.isBlank (Governed.endorsement x).contract = true →
    ledger.Refuses sources op (.approval .contractMissing)
  /-- The approval lacks something. -/
  lacking : (Governed.endorsement x).Contracted contract → ∀ defect, a.Lacks defect →
    ledger.Refuses sources op (.approval (.invalid defect))
  /-- The signer is no address. -/
  badSigner : (Governed.endorsement x).Contracted contract → a.Complete →
    ∀ fault, ledger.policy.addresses.decode a.signer = .error fault →
      ledger.Refuses sources op (.approval (.badSigner a.signer fault))
  /-- The approval is not backed. -/
  unbacked : (Governed.endorsement x).Contracted contract → a.Complete →
    ∀ raw, ledger.policy.addresses.decode a.signer = .ok raw →
      ∀ e, ledger.policy.quorum.Unbacked sources.scores a e →
        ledger.Refuses sources op (.approval e)
  /-- The approval is recorded. -/
  recorded : (Governed.endorsement x).Contracted contract → a.Complete →
    ∀ raw, ledger.policy.addresses.decode a.signer = .ok raw →
      ledger.policy.quorum.Backed sources.scores a →
        let y := Governed.withEndorsement x ((Governed.endorsement x).approved a contract)
        ledger.Puts sources op (changed y) r y
  /-- The checks of the record that comes out have nothing to add. -/
  checks : (Governed.endorsement x).Contracted contract → a.Complete →
    ∀ raw, ledger.policy.addresses.decode a.signer = .ok raw →
      Vetted.check ledger.policy.addresses
        (Governed.withEndorsement x ((Governed.endorsement x).approved a contract)) = .ok ()

/-- **The verdicts on an approval** of the record with an id, if there is one. -/
structure Endorses (ledger : Ledger) (sources : Sources) (op : Operation) (r : Register ρ)
    (changed : ρ → Outcome) (id : RecordId) (a : Approval) (contract : String) : Prop where
  known : ∃ found, r.find (ledger.store op.book) id = .ok found
  absent : r.find (ledger.store op.book) id = .ok none →
    ledger.Refuses sources op (.register (.notFound (Record.kind ρ) id))
  present : ∀ x, r.find (ledger.store op.book) id = .ok (some x) →
    ledger.EndorsesFrom sources op r changed x a contract
  /-- So an approval is recorded exactly if it should be. -/
  succeeds : ∀ x, r.find (ledger.store op.book) id = .ok (some x) →
    (ledger.Succeeds sources op ↔ (Governed.endorsement x).Contracted contract ∧ a.Complete ∧
      (∃ raw, ledger.policy.addresses.decode a.signer = .ok raw) ∧
      ledger.policy.quorum.Backed sources.scores a)
  /-- It is never reported that a role or a signer is there already. -/
  undoubled : ∀ role signer, (ledger.performWith sources op).1 ≠
    .error (.refused (.approval (.duplicate role signer)))

/-! ## The lists are complete -/

section Exhaustion

variable {ledger : Ledger} {sources : Sources} {op : Operation} {r : Register ρ}
  {changed : ρ → Outcome} {x : ρ}

/-- **A step is taken exactly if the rules allow it**: the verdicts leave nothing open. -/
theorem AdvancesFrom.succeeds_iff [Lifecycle.Descending σ] {next : σ}
    (h : ledger.AdvancesFrom sources op r changed x next) :
    ledger.Succeeds sources op ↔ Governed.status x = next ∨
      (Lifecycle.follows (Governed.status x) next = true ∧
        Text.isBlank (Governed.endorsement x).contract = false ∧
        (Lifecycle.gated next = true →
          ledger.policy.quorum.Stands sources.scores (Governed.endorsement x))) := by
  constructor
  · intro succeeds
    by_cases same : Governed.status x = next
    · exact .inl same
    · cases follows : Lifecycle.follows (Governed.status x) next with
      | false => exact absurd succeeds (h.apart same follows).not_succeeds
      | true =>
        cases given : Text.isBlank (Governed.endorsement x).contract with
        | true => exact absurd succeeds (h.bare follows given).not_succeeds
        | false =>
          refine .inr ⟨rfl, rfl, fun gated => ?_⟩
          by_cases enough : ledger.policy.quorum.minApprovals.toNat ≤
              (Governed.endorsement x).approvals.length
          · refine ⟨enough, ?_⟩
            rcases ledger.policy.quorum.backed_or_first_unbacked sources.scores
              (Governed.endorsement x).approvals with
              backed | ⟨front, a, back, report, split, before, unbacked⟩
            · exact backed
            · exact absurd succeeds (h.unbacked follows given gated enough front a back report
                split before unbacked).not_succeeds
          · exact absurd succeeds
              (h.few follows given gated (Nat.lt_of_not_le enough)).not_succeeds
  · rintro (same | ⟨follows, given, quorum⟩)
    · exact ⟨_, congrArg Prod.fst (h.already same)⟩
    · exact (h.moved follows given quorum).succeeds

variable {a : Approval} {contract : String}

omit [DecidableEq σ] in
/-- Whatever comes of an approval is on the list. -/
theorem EndorsesFrom.cases (h : ledger.EndorsesFrom sources op r changed x a contract) :
    ((Governed.endorsement x).Contracted contract ∧ a.Complete ∧
      (∃ raw, ledger.policy.addresses.decode a.signer = .ok raw) ∧
      ledger.policy.quorum.Backed sources.scores a ∧ ledger.Succeeds sources op) ∨
    ∃ e, ledger.Refuses sources op (.approval e) ∧ ∀ role signer, e ≠ .duplicate role signer := by
  rcases (Governed.endorsement x).contracted_or_blank contract with contracted | ⟨blank, missing⟩
  · rcases a.complete_or_lacks with complete | ⟨defect, lacks⟩
    · cases decoded : ledger.policy.addresses.decode a.signer with
      | error fault =>
        exact .inr ⟨_, h.badSigner contracted complete fault decoded, fun _ _ => nofun⟩
      | ok raw =>
        rcases ledger.policy.quorum.backed_or_unbacked sources.scores a with
          backed | ⟨report, unbacked⟩
        · exact .inl ⟨contracted, complete, ⟨raw, rfl⟩, backed,
            (h.recorded contracted complete raw decoded backed).succeeds⟩
        · refine .inr ⟨report, h.unbacked contracted complete raw decoded report unbacked, ?_⟩
          intro role signer
          cases unbacked <;> nofun
    · exact .inr ⟨_, h.lacking contracted defect lacks, fun _ _ => nofun⟩
  · exact .inr ⟨_, h.bare blank missing, fun _ _ => nofun⟩

omit [DecidableEq σ] in
/-- **An approval is recorded exactly if it should be**: the verdicts leave nothing open. -/
theorem EndorsesFrom.succeeds_iff (h : ledger.EndorsesFrom sources op r changed x a contract) :
    ledger.Succeeds sources op ↔ (Governed.endorsement x).Contracted contract ∧ a.Complete ∧
      (∃ raw, ledger.policy.addresses.decode a.signer = .ok raw) ∧
      ledger.policy.quorum.Backed sources.scores a := by
  constructor
  · intro succeeds
    rcases h.cases with ⟨contracted, complete, decoded, backed, -⟩ | ⟨e, refused, -⟩
    · exact ⟨contracted, complete, decoded, backed⟩
    · exact absurd succeeds refused.not_succeeds
  · rintro ⟨contracted, complete, ⟨raw, decoded⟩, backed⟩
    exact (h.recorded contracted complete raw decoded backed).succeeds

end Exhaustion

/-! ## The verdicts -/

variable [EndorsementChecked ρ] [FaithfulRecord ρ] {ledger : Ledger} {sources : Sources}
  (op : Operation) {r : Register ρ} {c : Contents ρ} {changed : ρ → Outcome} {id : RecordId}
  (keeps : r.Keeps ledger.policy.addresses (ledger.store op.book).entries c)
  (within : (ledger.store op.book).entries.Within (Bytes.reach 8))
  (healthy : (ledger.store op.book).Healthy)

include keeps within healthy

/-- The verdicts on a step in a register that was only written by its operations. -/
theorem advances_of_keeps [Lifecycle.Descending σ] {next : σ}
    (planned : op.plan ledger.policy sources (ledger.store op.book) = Operation.answering
      (r.advance ledger.policy (ledger.store op.book) sources.scores id next) changed) :
    ledger.Advances sources op r changed id next := by
  have present : ∀ x, r.find (ledger.store op.book) id = .ok (some x) →
      ledger.AdvancesFrom sources op r changed x next := by
    intro x found
    have passed := keeps.check_of_find within found
    exact {
      already := fun same => performWith_of_plan planned (advance_of_eq found same)
      apart := fun other apart => refuses_of_plan planned (advance_of_apart found other apart)
      bare := fun follows blank =>
        refuses_of_plan planned (advance_of_blank found follows passed blank)
      few := fun follows given gated few => refuses_of_plan planned
        (advance_of_ensure_error found follows gated (Quorum.ensure_of_few given few))
      unbacked := fun follows given gated enough front a back e split before unbacked =>
        refuses_of_plan planned (advance_of_ensure_error found follows gated
          (Quorum.ensure_of_unbacked given enough split before unbacked))
      moved := fun follows given quorum => puts_of_plan planned healthy
        (advance_of_quorum found follows passed given fun gated =>
          Quorum.ensure_of_stands given (quorum gated))
      checks := fun follows => Governed.check_withStatus passed follows }
  exact {
    known := ⟨_, keeps.find within healthy id⟩
    absent := fun absent => refuses_of_plan planned (advance_of_absent absent next)
    present := present
    succeeds := fun x found => (present x found).succeeds_iff }

/-- The verdicts on an approval in a register that was only written by its operations. -/
theorem endorses_of_keeps {a : Approval} {contract : String}
    (planned : op.plan ledger.policy sources (ledger.store op.book) = Operation.answering
      (r.endorse ledger.policy (ledger.store op.book) sources.scores id a contract) changed) :
    ledger.Endorses sources op r changed id a contract := by
  have absent : r.find (ledger.store op.book) id = .ok none →
      ledger.Refuses sources op (.register (.notFound (Record.kind ρ) id)) :=
    fun absent => refuses_of_plan planned (endorse_of_absent absent)
  have present : ∀ x, r.find (ledger.store op.book) id = .ok (some x) →
      ledger.EndorsesFrom sources op r changed x a contract := by
    intro x found
    have passed := keeps.check_of_find within found
    -- once there is a contract, the checks of the approval decide
    have refuses : (Governed.endorsement x).Contracted contract → ∀ e,
        a.check ledger.policy.addresses = .error e → ledger.Refuses sources op (.approval e) := by
      intro contracted e refused
      refine refuses_of_plan planned (endorse_of_approve_error found ?_)
      rw [Policy.approve_eq contracted.isBlank_approved, refused]
    exact {
      bare := by
        intro blank missing
        refine refuses_of_plan planned (endorse_of_approve_error found (Policy.approve_of_blank ?_))
        rw [Endorsement.isBlank_approved, blank, missing]
        rfl
      lacking := fun contracted defect lacks => refuses contracted _ (Approval.check_of_lacks lacks)
      badSigner := fun contracted complete fault bad =>
        refuses contracted _ (Approval.check_of_badSigner complete bad)
      unbacked := by
        intro contracted complete raw good e unbacked
        refine refuses_of_plan planned (endorse_of_approve_error found ?_)
        rw [Policy.approve_eq contracted.isBlank_approved, Approval.check_of_decode complete good,
          Quorum.checkBacking_of_unbacked unbacked]
      recorded := by
        intro contracted complete raw good backed
        have own := Approval.check_of_decode complete good
        refine puts_of_plan planned healthy
          (endorse_of_approve found passed own contracted.isBlank_approved ?_)
        rw [Policy.approve_eq contracted.isBlank_approved, own,
          Quorum.checkBacking_of_backed backed]
      checks := fun contracted complete raw good => Governed.check_approved passed
        (Approval.check_of_decode complete good) contracted.isBlank_approved }
  exact {
    known := ⟨_, keeps.find within healthy id⟩
    absent := absent
    present := present
    succeeds := fun x found => (present x found).succeeds_iff
    undoubled := by
      intro role signer
      have answer := keeps.find within healthy id
      cases held : c.records.get? id with
      | none => exact (absent (answer.trans (congrArg _ held))).fst_ne nofun
      | some x =>
        rcases (present x (answer.trans (congrArg _ held))).cases with
          ⟨-, -, -, -, answered, performed⟩ | ⟨e, refused, other⟩
        · rw [performed]
          nofun
        · exact refused.fst_ne fun same => other role signer (RecordError.approval.inj same) }

end Kinds

/-! ## After every history -/

/-- **Steps succeed exactly when the rules allow them.**  After any history of a ledger that started
unused, a budget, a procurement or a disbursement that is asked to take a step answers what the list
of verdicts says, if its store is in good health. -/
theorem advances_history {start : Ledger} (blank : start.Blank) {events : List Event}
    (within : ∀ front, front <+: events → (start.history front).Within (Bytes.reach 8))
    (sources : Sources) :
    let ledger := start.history events
    (ledger.budgets.Healthy → ∀ id next, ledger.Advances sources (.advanceBudget id next)
        Budget.register (.changed .budgets) id next) ∧
      (ledger.procurements.Healthy → ∀ id next, ledger.Advances sources
        (.advanceProcurement id next) Procurement.register (.changed .procurements) id next) ∧
      (ledger.disbursements.Healthy → ∀ id next, ledger.Advances sources
        (.advanceDisbursement id next) Disbursement.register (.changed .disbursements) id next) := by
  have orderly := blank.orderly_history within
  have fits := within events List.prefix_rfl
  refine ⟨fun healthy id next => ?_, fun healthy id next => ?_, fun healthy id next => ?_⟩
  · obtain ⟨c, keeps⟩ := (orderly .budgets).keeps
    exact advances_of_keeps (.advanceBudget id next) keeps (fits .budgets) healthy rfl
  · obtain ⟨c, keeps⟩ := (orderly .procurements).keeps
    exact advances_of_keeps (.advanceProcurement id next) keeps (fits .procurements) healthy rfl
  · obtain ⟨c, keeps⟩ := (orderly .disbursements).keeps
    exact advances_of_keeps (.advanceDisbursement id next) keeps (fits .disbursements) healthy rfl

/-- The ledger with the approved budget. -/
def approvedLedger : Ledger := (inMemory twoOfficers.policy).history roadsApproved

theorem policy_approvedLedger : approvedLedger.policy = twoOfficers.policy := policy_history _ _

theorem healthy_approvedLedger : approvedLedger.budgets.Healthy :=
  ((healthy_inMemory _).history (by simp [roadsApproved])).budgets

/-- The scorecards of the two officers as they are stored. -/
def officersOfRoads : List Scorecard :=
  [⟨1, "xaa", "honesty", 90, 1, "", "xaa"⟩, ⟨2, "xbb", "honesty", 80, 1, "", "xaa"⟩]

/-- What the ledger with the approved budget holds, and that nothing in it was ever too long to be
read back. -/
theorem stored_approvedLedger :
    Budget.register.find (approvedLedger.store .budgets) 1 = .ok (some approvedRoads) ∧
      (∀ card ∈ officersOfRoads, approvedLedger.sources.scores card.id = .ok (some card)) ∧
      approvedLedger.sources.scores 3 = .ok none ∧
      ∀ front ∈ roadsApproved.inits,
        ((inMemory twoOfficers.policy).history front).Within (Bytes.reach 8) := by
  decide +kernel

theorem within_roadsApproved {front : List Event} (happens : front <+: roadsApproved) :
    ((inMemory twoOfficers.policy).history front).Within (Bytes.reach 8) :=
  stored_approvedLedger.2.2.2 front ((List.mem_inits _ _).2 happens)

/-- An approval that one of the scorecards is about is backed. -/
theorem backed_approvedLedger {a : Approval} (h : ∃ card ∈ officersOfRoads,
    card.id = a.scorecard ∧ NameKey.of card.subject = a.signerKey ∧
      twoOfficers.policy.quorum.minScore ≤ card.score) :
    approvedLedger.policy.quorum.Backed approvedLedger.sources.scores a := by
  obtain ⟨card, stored, id, own, high⟩ := h
  rw [policy_approvedLedger]
  exact ⟨card, id ▸ stored_approvedLedger.2.1 card stored, own, high⟩

/-- The approved budget becomes law, and is not completed before. -/
theorem advances_approvedRoads :
    let legislated := { approvedRoads with status := .legislated }
    approvedLedger.Puts approvedLedger.sources (.advanceBudget 1 .legislated)
        (.changed .budgets legislated) Budget.register legislated ∧
      approvedLedger.Refuses approvedLedger.sources (.advanceBudget 1 .completed)
        (.transition "BUDGET_STATUS_DRAFT" "BUDGET_STATUS_COMPLETED") := by
  intro legislated
  have enough : approvedLedger.policy.quorum.minApprovals.toNat ≤
      approvedRoads.endorsement.approvals.length := by
    rw [policy_approvedLedger]
    decide
  have cards : ∀ a ∈ approvedRoads.endorsement.approvals, ∃ card ∈ officersOfRoads,
      card.id = a.scorecard ∧ NameKey.of card.subject = a.signerKey ∧
        twoOfficers.policy.quorum.minScore ≤ card.score := by decide
  have stands : approvedLedger.policy.quorum.Stands approvedLedger.sources.scores
      approvedRoads.endorsement :=
    ⟨enough, fun a ha => backed_approvedLedger (cards a ha)⟩
  have verdicts : ∀ next, approvedLedger.Advances approvedLedger.sources (.advanceBudget 1 next)
      Budget.register (.changed .budgets) 1 next :=
    (@advances_history _ (blank_inMemory twoOfficers.policy) roadsApproved
      (fun front happens => within_roadsApproved happens) approvedLedger.sources).1
      healthy_approvedLedger 1
  have found := stored_approvedLedger.1
  generalize approvedLedger = ledger at *
  exact ⟨((verdicts .legislated).present _ found).moved rfl (by decide) fun _ => stands,
    ((verdicts .completed).present _ found).apart (by decide) rfl⟩

/-- **An approval is recorded exactly when it should be.**  After any history of a ledger that
started unused, a budget, a procurement or a disbursement that is approved answers what the list of
verdicts says, if its store is in good health. -/
theorem endorses_history {start : Ledger} (blank : start.Blank) {events : List Event}
    (within : ∀ front, front <+: events → (start.history front).Within (Bytes.reach 8))
    (sources : Sources) :
    let ledger := start.history events
    (ledger.budgets.Healthy → ∀ id a contract, ledger.Endorses sources
        (.endorseBudget id a contract) Budget.register (.changed .budgets) id a contract) ∧
      (ledger.procurements.Healthy → ∀ id a contract, ledger.Endorses sources
        (.endorseProcurement id a contract) Procurement.register (.changed .procurements) id a
        contract) ∧
      (ledger.disbursements.Healthy → ∀ id a contract, ledger.Endorses sources
        (.endorseDisbursement id a contract) Disbursement.register (.changed .disbursements) id a
        contract) := by
  have orderly := blank.orderly_history within
  have fits := within events List.prefix_rfl
  refine ⟨fun healthy id a contract => ?_, fun healthy id a contract => ?_,
    fun healthy id a contract => ?_⟩
  · obtain ⟨c, keeps⟩ := (orderly .budgets).keeps
    exact endorses_of_keeps (.endorseBudget id a contract) keeps (fits .budgets) healthy rfl
  · obtain ⟨c, keeps⟩ := (orderly .procurements).keeps
    exact endorses_of_keeps (.endorseProcurement id a contract) keeps (fits .procurements) healthy rfl
  · obtain ⟨c, keeps⟩ := (orderly .disbursements).keeps
    exact endorses_of_keeps (.endorseDisbursement id a contract) keeps (fits .disbursements) healthy rfl

/-- The second officer approves the budget in the role of the first.  The new approval takes the
place of both, of one for its role and of the other for its signer.  Without a scorecard it is
refused. -/
theorem endorses_approvedRoads :
    let approval : Approval := ⟨"xBB", " Treasurer", 2, "third"⟩
    let alone := { approvedRoads with endorsement := ⟨"contract", [approval]⟩ }
    approvedLedger.Puts approvedLedger.sources (.endorseBudget 1 approval "")
        (.changed .budgets alone) Budget.register alone ∧
      approvedLedger.Refuses approvedLedger.sources
        (.endorseBudget 1 { approval with scorecard := 3 } "") (.approval (.scoreMissing 3)) := by
  intro approval alone
  have complete : approval.Complete := by constructor <;> decide
  have complete' : { approval with scorecard := 3 }.Complete := by constructor <;> decide
  have decoded : approvedLedger.policy.addresses.decode "xBB" = .ok [0xbb] := by
    rw [policy_approvedLedger]
    decide
  have contracted : approvedRoads.endorsement.Contracted "" := .inr (by decide)
  have backed : approvedLedger.policy.quorum.Backed approvedLedger.sources.scores approval :=
    backed_approvedLedger (by decide)
  have only : approvedRoads.endorsement.approved approval "" = ⟨"contract", [approval]⟩ := by
    decide
  have verdicts : ∀ a, approvedLedger.Endorses approvedLedger.sources (.endorseBudget 1 a "")
      Budget.register (.changed .budgets) 1 a "" := fun a =>
    (@endorses_history _ (blank_inMemory twoOfficers.policy) roadsApproved
      (fun front happens => within_roadsApproved happens) approvedLedger.sources).1
      healthy_approvedLedger 1 a ""
  obtain ⟨found, -, missing, -⟩ := stored_approvedLedger
  generalize approvedLedger = ledger at *
  have recorded := ((verdicts approval).present _ found).recorded contracted complete _ decoded
    backed
  have refused := ((verdicts { approval with scorecard := 3 }).present _ found).unbacked contracted
    complete' _ decoded _ (.missing missing)
  refine ⟨?_, refused⟩
  have same : Governed.withEndorsement approvedRoads
      ((Governed.endorsement approvedRoads).approved approval "") = alone := by
    show { approvedRoads with endorsement := approvedRoads.endorsement.approved approval "" } = _
    rw [only]
  rwa [same] at recorded

end Ledger

end PublicFunds
