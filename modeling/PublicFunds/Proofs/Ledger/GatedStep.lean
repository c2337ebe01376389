import PublicFunds.Proofs.Address.Identity
import PublicFunds.Proofs.Approval.Verdict
import PublicFunds.Proofs.Ledger.History

/-!
# A gated step has a quorum of people behind it

Counting approvals is not the same as counting officers.  What stands behind a gated step is a
record with a contract and enough approvals, and that these come from different officers, in
different roles and with different scorecards is nowhere counted.  It follows from three things that
are checked at the step itself.

The approvals of the record that comes out have to go together, so roles and signers have different
keys.  Signers with different keys have different addresses, since spellings of one address have one
key.  And the scorecard behind an approval is about its signer, so one scorecard cannot stand behind
two.

None of this looks at how the record got its approvals.  So it holds at every step of every history,
also one that starts from stores with anything in them.

* `Quorum.Met`: a quorum of people.
* `Ledger.quorum_of_gated_step`: what every gated step has behind it.
-/

namespace PublicFunds

/-! ## A quorum of people -/

/-- What a quorum amounts to: a contract, enough approvals, and behind these as many officers, roles
and scorecards, each of the scorecards being about its officer and high enough. -/
structure Quorum.Met (q : Quorum) (format : AddressFormat) (scores : ScoreSource)
    (e : Endorsement) : Prop where
  contract : Text.isBlank e.contract = false
  asks : 1 ≤ q.minApprovals.toNat
  enough : q.minApprovals.toNat ≤ e.approvals.length
  addresses : ∀ a ∈ e.approvals, ∃ raw, format.decode a.signer = .ok raw
  officers : e.approvals.Pairwise fun a b => format.decode a.signer ≠ format.decode b.signer
  roles : e.approvals.Pairwise fun a b => a.roleKey ≠ b.roleKey
  cards : e.approvals.Pairwise fun a b => a.scorecard ≠ b.scorecard
  backed : ∀ a ∈ e.approvals, ∃ card, scores a.scorecard = .ok (some card) ∧
    NameKey.of card.subject = a.signerKey ∧ q.minScore ≤ card.score

namespace Quorum

/-- What is known once a quorum has been called on. -/
theorem of_ensure {q : Quorum} {scores : ScoreSource} {e : Endorsement}
    (h : q.ensure scores e = .ok ()) :
    Text.isBlank e.contract = false ∧ q.minApprovals.toNat ≤ e.approvals.length ∧
      ∀ a ∈ e.approvals, q.checkBacking scores a = .ok () := by
  unfold ensure at h
  split at h
  · cases h
  · next hcontract =>
    split at h
    · cases h
    · next henough =>
      refine ⟨?_, Nat.le_of_not_lt henough, ?_⟩
      · simpa [Endorsement.hasContract] using hcontract
      · intro a ha
        exact Check.all_eq_ok_iff.1 h _ (List.mem_map_of_mem ha)

/-- A quorum that passes its check asks for an approval. -/
theorem one_le_of_check {q : Quorum} (h : q.check = .ok ()) : 1 ≤ q.minApprovals.toNat := by
  have passed := Check.all_eq_ok_iff.1 h (Check.require (q.minApprovals != 0) .noApprovals)
    (by simp)
  rw [Check.require_eq_ok, bne_iff_ne] at passed
  have positive : q.minApprovals.toNat ≠ 0 := fun h0 => passed (UInt64.toNat_inj.1 h0)
  omega

/-- **Approvals that go together and pass the quorum are a quorum of people.** -/
theorem met_of_ensure {q : Quorum} {format : AddressFormat} {scores : ScoreSource}
    {e : Endorsement} (asks : 1 ≤ q.minApprovals.toNat) (quorum : q.ensure scores e = .ok ())
    (each : ∀ a ∈ e.approvals, a.check format = .ok ())
    (apart : e.approvals.Pairwise fun a b => a.conflictsWith b = false) :
    q.Met format scores e := by
  obtain ⟨contract, enough, backing⟩ := of_ensure quorum
  have addresses : ∀ a ∈ e.approvals, ∃ raw, format.decode a.signer = .ok raw :=
    fun a ha => Approval.exists_decode_of_check (each a ha)
  have backed := fun a ha => checkBacking_eq_ok_iff.1 (backing a ha)
  refine ⟨contract, asks, enough, addresses, ?_, ?_, ?_, backed⟩
  · refine apart.imp_of_mem fun {a b} ha hb hab hsame => ?_
    obtain ⟨raw, hraw⟩ := addresses a ha
    exact (Approval.conflictsWith_eq_false.1 hab).2
      (AddressFormat.nameKey_eq_of_decode hraw (hsame ▸ hraw))
  · exact apart.imp fun hab => (Approval.conflictsWith_eq_false.1 hab).1
  · -- one scorecard is about one subject, so it cannot be about two signers
    refine apart.imp_of_mem fun {a b} ha hb hab hsame => ?_
    obtain ⟨card, hcard, hsubject, -⟩ := backed a ha
    obtain ⟨card', hcard', hsubject', -⟩ := backed b hb
    rw [hsame, hcard'] at hcard
    cases hcard
    exact (Approval.conflictsWith_eq_false.1 hab).2 (hsubject.symm.trans hsubject')

end Quorum

/-- The quorum of a configuration that passes its check asks for an approval. -/
theorem Configuration.one_le_minApprovals {config : Configuration} (h : config.check = .ok ()) :
    1 ≤ config.policy.quorum.minApprovals.toNat := by
  have passed := Check.all_eq_ok_iff.1 h _ (List.mem_cons_self ..)
  cases hq : config.policy.quorum.check with
  | error e =>
    rw [hq] at passed
    cases passed
  | ok u => exact Quorum.one_le_of_check hq

/-! ## Steps of one register -/

section Register

variable {ρ σ : Type} [Record ρ] [Vetted ρ] [Lifecycle σ] [DecidableEq σ] [Governed ρ σ]

/-- Whenever a stored record is taken to another status and that status is gated, a quorum of
people stands behind the record as it was.  `after` is the store after a record has been asked to
take a step. -/
def Register.TakesQuorum (r : Register ρ) (policy : Policy) (scores : ScoreSource) (store : Store)
    (after : RecordId → σ → Store) : Prop :=
  ∀ id next record changed, r.find store id = .ok (some record) →
    r.find (after id next) id = .ok (some changed) →
    Governed.status record ≠ next → Governed.status changed = next →
    Lifecycle.gated next = true →
    policy.quorum.Met policy.addresses scores (Governed.endorsement record)

/-- A register takes a quorum at every gated step, whatever is in its store. -/
theorem Register.takesQuorum [EndorsementChecked ρ] (r : Register ρ) {policy : Policy}
    (asks : 1 ≤ policy.quorum.minApprovals.toNat) (scores : ScoreSource) (store : Store) :
    r.TakesQuorum policy scores store
      fun id next => (store.carryOut (r.advance policy store scores id next)).2 := by
  intro id next record changed before after moved arrived gated
  rcases store.carryOut_cases (r.advance policy store scores id next) with
    ⟨e, -, same⟩ | ⟨answer, batch, plan, -, written⟩
  · -- a refused step leaves the record where it was
    have found : r.find store id = .ok (some changed) := by
      rw [← after]
      exact Register.find_congr same.symm (store.faults_carryOut _).symm id
    rw [before] at found
    cases found
    exact absurd arrived moved
  · obtain ⟨found, hfound, nothing | ⟨-, -, quorum, checked, -, -⟩⟩ := Register.advance_eq_ok plan
    · rw [before] at hfound
      cases hfound
      exact absurd nothing.1 moved
    · rw [before] at hfound
      cases hfound
      obtain ⟨each, apart⟩ := Governed.pairwise_of_checkFields (Vetted.of_check checked).2
      rw [Governed.endorsement_withStatus] at each apart
      exact Quorum.met_of_ensure asks (quorum gated) each apart

end Register

/-! ## Steps of a ledger -/

namespace Ledger

/-- **Every gated step has a quorum of people behind it.**  After any history, a budget, a
procurement or a disbursement that is taken to a gated status had, as it was stored before that
step, a contract and enough approvals of different officers in different roles, backed by different
scorecards that are stored at that moment. -/
theorem quorum_of_gated_step {config : Configuration} (valid : config.check = .ok ())
    {start : Ledger} (configured : start.policy = config.policy) (events : List Event) :
    let ledger := start.history events
    let scores := Scorecard.source ledger.scorecards
    Budget.register.TakesQuorum config.policy scores ledger.budgets
        (fun id next => (ledger.perform (.advanceBudget id next)).2.budgets) ∧
      Procurement.register.TakesQuorum config.policy scores ledger.procurements
        (fun id next => (ledger.perform (.advanceProcurement id next)).2.procurements) ∧
      Disbursement.register.TakesQuorum config.policy scores ledger.disbursements
        (fun id next => (ledger.perform (.advanceDisbursement id next)).2.disbursements) := by
  intro ledger scores
  have policy : ledger.policy = config.policy := (start.policy_history events).trans configured
  have asks := Configuration.one_le_minApprovals valid
  rw [← policy] at asks ⊢
  refine ⟨?_, ?_, ?_⟩
  · have stepwise : ∀ id next, (ledger.perform (.advanceBudget id next)).2.budgets =
        (ledger.budgets.carryOut
          (Budget.register.advance ledger.policy ledger.budgets scores id next)).2 :=
      fun id next => store_perform_of_answering (.advanceBudget id next) rfl
    simp only [stepwise]
    exact Budget.register.takesQuorum asks scores ledger.budgets
  · have stepwise : ∀ id next, (ledger.perform (.advanceProcurement id next)).2.procurements =
        (ledger.procurements.carryOut
          (Procurement.register.advance ledger.policy ledger.procurements scores id next)).2 :=
      fun id next => store_perform_of_answering (.advanceProcurement id next) rfl
    simp only [stepwise]
    exact Procurement.register.takesQuorum asks scores ledger.procurements
  · have stepwise : ∀ id next, (ledger.perform (.advanceDisbursement id next)).2.disbursements =
        (ledger.disbursements.carryOut
          (Disbursement.register.advance ledger.policy ledger.disbursements scores id next)).2 :=
      fun id next => store_perform_of_answering (.advanceDisbursement id next) rfl
    simp only [stepwise]
    exact Disbursement.register.takesQuorum asks scores ledger.disbursements

/-- A configuration with short addresses that asks for two approvals. -/
def twoOfficers : Configuration := ⟨none, ⟨⟨"x", 1⟩, ⟨2, 80⟩⟩, "info", none, none⟩

/-- A budget that two officers have approved, as it is stored under its id. -/
def approvedRoads : Budget :=
  ⟨1, "works", "2025", "roads", ⟨7, by decide⟩, "EUR", "", .draft, "xaa",
    ⟨"contract", [⟨"xAA", "treasurer", 1, "first"⟩, ⟨"xbb", "auditor", 2, "second"⟩]⟩⟩

/-- What leads to the approved budget: two officers are rated, the draft is entered, and each of
them approves it. -/
def roadsApproved : List Event := [
  .step (.operate (.rate ⟨0, "xaa", "honesty", 90, 1, "", "xaa"⟩)),
  .step (.operate (.rate ⟨0, "xbb", "honesty", 80, 1, "", "xaa"⟩)),
  .step (.operate (.enterBudget { approvedRoads with id := 0 })),
  .step (.operate (.endorseBudget 1 ⟨"xAA", "treasurer", 1, "first"⟩ "")),
  .step (.operate (.endorseBudget 1 ⟨"xbb", "auditor", 2, "second"⟩ ""))]

/-- The approved budget becomes law, and a quorum of people stands behind it. -/
theorem quorum_of_approvedRoads :
    twoOfficers.policy.quorum.Met twoOfficers.policy.addresses
      (Scorecard.source ((inMemory twoOfficers.policy).history roadsApproved).scorecards)
      approvedRoads.endorsement := by
  have valid : twoOfficers.check = .ok () := rfl
  have before : Budget.register.find ((inMemory twoOfficers.policy).history roadsApproved).budgets 1
      = .ok (some approvedRoads) := by decide +kernel
  have after : Budget.register.find (((inMemory twoOfficers.policy).history roadsApproved).perform
      (.advanceBudget 1 .legislated)).2.budgets 1
      = .ok (some { approvedRoads with status := .legislated }) := by decide +kernel
  obtain ⟨budgets, -, -⟩ :=
    @quorum_of_gated_step _ valid (inMemory twoOfficers.policy) rfl roadsApproved
  exact budgets 1 .legislated _ _ before after (by decide) rfl rfl

end Ledger

end PublicFunds
