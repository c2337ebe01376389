import Mathlib.Data.List.Infix
import PublicFunds.Proofs.Ledger.Orderly
import PublicFunds.Proofs.Ledger.Reproduction

/-!
# Everything that is stored is valid

Records are written on many ways: they are entered, with an id or without one, they go to their next
status, they are approved or given up, and they come with a document.  Not every way checks the
record that it writes from the beginning.  What is stored is valid all the same, after every history
of a ledger that started unused.

For the three governed kinds this says who answers for a record.  One officer signs once and in one
role, every signer is an address, and a record that is under way has a liability contract.

* `Governed.Answerable`, `Book.Answerable`: who answers for a record.
* `Ledger.valid_history`: every stored record is valid, and somebody answers for it.
-/

namespace PublicFunds

/-! ## Records that somebody answers for -/

/-- A record that is under way passes the check of its endorsement only with a contract. -/
theorem Endorsement.hasContract_of_check {format : AddressFormat} {e : Endorsement}
    (h : e.check format true = .ok ()) : e.hasContract = true := by
  unfold check at h
  split at h
  · cases h
  · next signed => simpa using signed

section Governed

variable {ρ σ : Type} [Record ρ] [Lifecycle σ] [DecidableEq σ] [Governed ρ σ]

/-- Who answers for a record: its approvals have different roles and different signers, the signers
are addresses, and once the record has taken a step there is a liability contract. -/
structure Governed.Answerable (format : AddressFormat) (x : ρ) : Prop where
  roles : (endorsement x).approvals.Pairwise fun a b => a.roleKey ≠ b.roleKey
  signers : (endorsement x).approvals.Pairwise fun a b => a.signerKey ≠ b.signerKey
  addresses : ∀ a ∈ (endorsement x).approvals, ∃ raw, format.decode a.signer = .ok raw
  contract : status x ≠ Lifecycle.initial → Text.isBlank (endorsement x).contract = false

/-- Somebody answers for a record that passes its checks. -/
theorem Governed.answerable_of_checkFields [Vetted ρ] [EndorsementChecked ρ]
    {format : AddressFormat} {x : ρ} (h : Vetted.checkFields format x = .ok ()) :
    Answerable format x := by
  obtain ⟨each, apart⟩ := pairwise_of_checkFields h
  refine ⟨?_, ?_, fun a ha => Approval.exists_decode_of_check (each a ha), fun underWay => ?_⟩
  · exact apart.imp fun free => (Approval.conflictsWith_eq_false.1 free).1
  · exact apart.imp fun free => (Approval.conflictsWith_eq_false.1 free).2
  · have covered := EndorsementChecked.checkEndorsement_of_checkFields h
    have moving : (!Lifecycle.isInitial (status x)) = true := by
      simpa [Lifecycle.isInitial] using underWay
    unfold checkEndorsement at covered
    rw [moving] at covered
    cases checked : (endorsement x).check format true with
    | error e =>
      rw [checked] at covered
      cases covered
    | ok u => simpa [Endorsement.hasContract] using Endorsement.hasContract_of_check checked

end Governed

/-- Somebody answers for a record of a book, if its kind is governed. -/
def Book.Answerable : (b : Book) → AddressFormat → b.Item → Prop
  | .scorecards, _, _ => True
  | .budgets, format, x => Governed.Answerable format (x : Budget)
  | .procurements, format, x => Governed.Answerable format (x : Procurement)
  | .disbursements, format, x => Governed.Answerable format (x : Disbursement)
  | .delegations, _, _ => True

theorem Book.answerable_of_checkFields {b : Book} {format : AddressFormat} {x : b.Item}
    (h : Vetted.checkFields format x = .ok ()) : b.Answerable format x := by
  cases b with
  | scorecards => trivial
  | budgets => exact Governed.answerable_of_checkFields (ρ := Budget) h
  | procurements => exact Governed.answerable_of_checkFields (ρ := Procurement) h
  | disbursements => exact Governed.answerable_of_checkFields (ρ := Disbursement) h
  | delegations => trivial

/-! ## Validity after every history -/

namespace Ledger

/-- **Everything that is stored is valid.**  After every history of a ledger that started unused,
with any policy and with documents loaded and changes failed on the way, the records of each book
can be read once nothing goes wrong in its store any more.  Each of them passes all its checks, and
somebody answers for it if its kind is governed. -/
theorem valid_history {start : Ledger} (blank : start.Blank) {events : List Event}
    (within : ∀ front, front <+: events → (start.history front).Within (Bytes.reach 8))
    (b : Book) :
    ∃ xs, b.register.all ((start.history events).store b).mended = .ok xs ∧
      ∀ x ∈ xs, Vetted.check start.policy.addresses x = .ok () ∧
        b.Answerable start.policy.addresses x := by
  obtain ⟨c, keeps, read⟩ := (blank.orderly_history within).all (within events List.prefix_rfl) b
  rw [policy_history] at keeps
  refine ⟨_, read, fun x hx => ?_⟩
  have valid := Vetted.checkAll_eq_ok_iff.1 (Register.Contents.checkAll_values keeps.valid) x hx
  exact ⟨valid, Book.answerable_of_checkFields (Vetted.of_check valid).2⟩

/-- What leads to a budget that is law: an officer is rated and approves the draft, then approves it
again in another role, so that the new approval takes the place of the old one, and the budget takes
its step. -/
def roadsLegislated : List Event := [
  .step (.operate (.rate ⟨0, "xaa", "honesty", 90, 1, "", "xaa"⟩)),
  .step (.operate (.enterBudget (.drafted "works" "2025" "roads" ⟨12, by decide⟩ "EUR" "xaa"))),
  .step (.operate (.endorseBudget 1 ⟨"xaa", "treasurer", 1, "first"⟩ "contract")),
  .step (.operate (.endorseBudget 1 ⟨"xAA", "auditor", 1, "second"⟩ "")),
  .step (.operate (.advanceBudget 1 .legislated))]

/-- The budget is law, and one officer answers for it in one role. -/
theorem valid_roadsLegislated :
    ∃ xs, Budget.register.all
        ((inMemory oneOfficer).history roadsLegislated).budgets.mended = .ok xs ∧
      xs.map (fun x => (x.status, x.endorsement.approvals.map fun a => (a.signer, a.role))) =
        [(.legislated, [("xAA", "auditor")])] ∧
      ∀ x ∈ xs, Vetted.check oneOfficer.addresses x = .ok () ∧
        Governed.Answerable oneOfficer.addresses x := by
  have stored : (Budget.register.all
      ((inMemory oneOfficer).history roadsLegislated).budgets.mended).map
        (·.map fun x => (x.status, x.endorsement.approvals.map fun a => (a.signer, a.role))) =
      .ok [(.legislated, [("xAA", "auditor")])] := by decide +kernel
  have short : ∀ front ∈ roadsLegislated.inits,
      ((inMemory oneOfficer).history front).Within (Bytes.reach 8) := by decide +kernel
  obtain ⟨xs, read, valid⟩ := @valid_history _ (blank_inMemory oneOfficer) roadsLegislated
    (fun front happens => short front ((List.mem_inits _ _).2 happens)) .budgets
  have read' : Budget.register.all
      ((inMemory oneOfficer).history roadsLegislated).budgets.mended = .ok xs := read
  rw [read'] at stored
  exact ⟨xs, read, Except.ok.inj stored, valid⟩

end Ledger

end PublicFunds
