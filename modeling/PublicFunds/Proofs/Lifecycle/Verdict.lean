import PublicFunds.Proofs.Approval.Verdict
import PublicFunds.Proofs.Lifecycle.Path
import PublicFunds.Proofs.Register.Sound

/-!
# When records take a step and are approved

A stored record that is asked to take a step, or is approved, is judged twice: by the rules of the
change, and by all checks of the record that comes out, among them those that it passed when it was
entered.  The second judgment might refuse what the first allows.  It hardly ever does.  Nothing but
the status or the endorsement of the record has changed, so only the check of its endorsement can
have another result; and the approvals of a stored record go together, which a step does not change
and a new approval keeps so.  What is left is the contract: a record that takes a step needs one,
also if the step takes no quorum.

* `Governed.check_withStatus`, `Governed.check_approved`: the second judgment.
* `Register.advance_of_absent` and so on: what a step comes to, case by case.
* `Register.endorse_of_absent` and so on: what an approval comes to, case by case.
-/

namespace PublicFunds

variable {ρ σ : Type} [Record ρ] [Vetted ρ] [Lifecycle σ] [DecidableEq σ] [Governed ρ σ]

/-! ## The record that comes out -/

/-- A record that has an id passes all its checks if its fields do. -/
theorem Vetted.check_eq_checkFields {ρ : Type} [Record ρ] [Vetted ρ] {format : AddressFormat}
    {x : ρ} (given : Record.id x ≠ 0) : check format x = checkFields format x :=
  if_neg given

namespace Governed

variable [EndorsementChecked ρ] {format : AddressFormat} {x : ρ}

/-- **A step is refused by the checks of the record only for want of a contract.** -/
theorem check_withStatus [Lifecycle.Descending σ] (passed : Vetted.check format x = .ok ())
    {next : σ} (follows : Lifecycle.follows (status x) next = true) :
    Vetted.check format (withStatus x next) =
      if Text.isBlank (endorsement x).contract then .error (.approval .contractMissing)
      else .ok () := by
  obtain ⟨given, checked⟩ := Vetted.of_check passed
  obtain ⟨each, apart⟩ := pairwise_of_checkFields checked
  rw [Vetted.check_eq_checkFields (by rwa [id_withStatus]),
    EndorsementChecked.checkFields_withStatus checked, checkEndorsement, endorsement_withStatus,
    status_withStatus, Endorsement.check_of_pairwise each apart,
    Lifecycle.isInitial_of_follows follows, Bool.not_false, Bool.true_and]
  split <;> rfl

/-- **An approval is never refused by the checks of the record.** -/
theorem check_approved (passed : Vetted.check format x = .ok ()) {a : Approval}
    (own : a.check format = .ok ()) {contract : String}
    (given : Text.isBlank ((endorsement x).approved a contract).contract = false) :
    Vetted.check format (withEndorsement x ((endorsement x).approved a contract)) = .ok () := by
  obtain ⟨numbered, checked⟩ := Vetted.of_check passed
  obtain ⟨each, apart⟩ := pairwise_of_checkFields checked
  rw [Vetted.check_eq_checkFields (by rwa [id_withEndorsement]),
    EndorsementChecked.checkFields_withEndorsement checked, checkEndorsement,
    endorsement_withEndorsement, Endorsement.check_approved each apart own given]
  rfl

end Governed

namespace Register

variable {r : Register ρ} {format : AddressFormat} {policy : Policy} {store : Store}
  {scores : ScoreSource} {id : RecordId} {x : ρ}

/-- A record that is found passes its checks. -/
theorem Keeps.check_of_find {ρ : Type} [Record ρ] [Vetted ρ] [FaithfulRecord ρ] {r : Register ρ}
    {c : Contents ρ} {x : ρ} (keeps : r.Keeps format store.entries c)
    (within : store.entries.Within (Bytes.reach 8)) (found : r.find store id = .ok (some x)) :
    Vetted.check format x = .ok () := by
  obtain ⟨own, nonzero, -, checked⟩ := keeps.valid id x (keeps.find_eq_ok within found).symm
  rwa [Vetted.check_eq_checkFields (own ▸ nonzero)]

/-- A record that passes its checks is written. -/
theorem replace_of_check {ρ : Type} [Record ρ] [Vetted ρ] {r : Register ρ} {x : ρ}
    (passed : Vetted.check format x = .ok ()) :
    r.replace format x = .ok (x, [r.entry x]) := by
  unfold replace stage
  rw [passed]
  simp only [if_neg (Vetted.of_check passed).1]

/-! ## Steps -/

/-- No record that does not exist takes a step. -/
theorem advance_of_absent (absent : r.find store id = .ok none) (next : σ) :
    r.advance policy store scores id next = .error (.register (.notFound (Record.kind ρ) id)) := by
  unfold advance get
  simp only [absent]

section Found

variable {next : σ} (found : r.find store id = .ok (some x))

include found

/-- There is nothing to do for a record that has the status already. -/
theorem advance_of_eq (same : Governed.status x = next) :
    r.advance policy store scores id next = .ok (x, []) := by
  unfold advance
  simp only [get_eq_ok.2 found, Governed.transition, same, if_true]

/-- No record goes where no arrow leads. -/
theorem advance_of_apart (other : Governed.status x ≠ next)
    (apart : Lifecycle.follows (Governed.status x) next = false) :
    r.advance policy store scores id next = .error (.transition
      (Lifecycle.name (Governed.status x)) (Lifecycle.name next)) := by
  unfold advance
  simp only [get_eq_ok.2 found, Governed.transition, if_neg other, apart, Bool.not_false, if_true]

variable [Lifecycle.Descending σ] (follows : Lifecycle.follows (Governed.status x) next = true)

include follows

/-- A step that takes no quorum depends on the checks of the record. -/
theorem advance_of_free (free : Lifecycle.gated next = false) :
    r.advance policy store scores id next =
      r.replace policy.addresses (Governed.withStatus x next) := by
  unfold advance
  simp only [get_eq_ok.2 found, Governed.transition, if_neg (Lifecycle.ne_of_follows follows),
    follows, free, Bool.not_true, Bool.false_eq_true, if_false]

/-- A step is refused if its quorum is. -/
theorem advance_of_ensure_error (gated : Lifecycle.gated next = true) {e : ApprovalError}
    (refused : policy.quorum.ensure scores (Governed.endorsement x) = .error e) :
    r.advance policy store scores id next = .error (.approval e) := by
  unfold advance
  simp only [get_eq_ok.2 found, Governed.transition, if_neg (Lifecycle.ne_of_follows follows),
    follows, gated, refused, Bool.not_true, Bool.false_eq_true, if_false, if_true]

/-- A step that has its quorum depends on the checks of the record. -/
theorem advance_of_ensure (gated : Lifecycle.gated next = true)
    (met : policy.quorum.ensure scores (Governed.endorsement x) = .ok ()) :
    r.advance policy store scores id next =
      r.replace policy.addresses (Governed.withStatus x next) := by
  unfold advance
  simp only [get_eq_ok.2 found, Governed.transition, if_neg (Lifecycle.ne_of_follows follows),
    follows, gated, met, Bool.not_true, Bool.false_eq_true, if_false, if_true]

variable [EndorsementChecked ρ] (passed : Vetted.check policy.addresses x = .ok ())

include passed

/-- **Without a contract no record takes a step**, gated or not. -/
theorem advance_of_blank (blank : Text.isBlank (Governed.endorsement x).contract = true) :
    r.advance policy store scores id next = .error (.approval .contractMissing) := by
  cases gated : Lifecycle.gated next with
  | true => exact advance_of_ensure_error found follows gated (Quorum.ensure_of_blank blank)
  | false =>
    rw [advance_of_free found follows gated, replace, Governed.check_withStatus passed follows,
      if_pos blank]

/-- **With a contract, and a quorum if it takes one, a record takes a step.** -/
theorem advance_of_quorum (given : Text.isBlank (Governed.endorsement x).contract = false)
    (quorum : Lifecycle.gated next = true →
      policy.quorum.ensure scores (Governed.endorsement x) = .ok ()) :
    r.advance policy store scores id next =
      .ok (Governed.withStatus x next, [r.entry (Governed.withStatus x next)]) := by
  have stands : Vetted.check policy.addresses (Governed.withStatus x next) = .ok () := by
    rw [Governed.check_withStatus passed follows, given]
    rfl
  cases gated : Lifecycle.gated next with
  | true => rw [advance_of_ensure found follows gated (quorum gated), replace_of_check stands]
  | false => rw [advance_of_free found follows gated, replace_of_check stands]

end Found

/-! ## Approvals -/

variable {a : Approval} {contract : String}

omit [DecidableEq σ] in
/-- No record that does not exist is approved. -/
theorem endorse_of_absent (absent : r.find store id = .ok none) :
    r.endorse policy store scores id a contract =
      .error (.register (.notFound (Record.kind ρ) id)) := by
  unfold endorse get
  simp only [absent]

omit [DecidableEq σ] in
/-- An approval is refused if it is not recorded. -/
theorem endorse_of_approve_error (found : r.find store id = .ok (some x)) {e : ApprovalError}
    (refused : policy.approve scores (Governed.endorsement x) a contract = .error e) :
    r.endorse policy store scores id a contract = .error (.approval e) := by
  unfold endorse Governed.endorse
  simp only [get_eq_ok.2 found, refused]

/-- **What is recorded is written.** -/
theorem endorse_of_approve [EndorsementChecked ρ] (found : r.find store id = .ok (some x))
    (passed : Vetted.check policy.addresses x = .ok ()) (own : a.check policy.addresses = .ok ())
    (given : Text.isBlank ((Governed.endorsement x).approved a contract).contract = false)
    (approved : policy.approve scores (Governed.endorsement x) a contract =
      .ok ((Governed.endorsement x).approved a contract)) :
    let y := Governed.withEndorsement x ((Governed.endorsement x).approved a contract)
    r.endorse policy store scores id a contract = .ok (y, [r.entry y]) := by
  intro y
  have stands : Vetted.check policy.addresses y = .ok () :=
    Governed.check_approved passed own given
  unfold endorse Governed.endorse
  simp only [get_eq_ok.2 found, approved]
  exact replace_of_check stands

end Register

end PublicFunds
