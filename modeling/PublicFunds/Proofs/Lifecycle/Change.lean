import PublicFunds.Disbursement.Basic

/-!
# Changes of governed records, taken apart

Taking a stored record to its next status and adding an approval to it go through several checks in
a row.  Here each of the two is taken apart once, so that whoever wants to know what holds after it
need not go through the checks again.

The last of the checks is that of the record that comes out.  It covers the endorsement, and so a
step that is taken at all is taken with approvals that go together, whatever the store held before.

* `Register.advance_eq_ok`, `Register.endorse_eq_ok`: what is known once the change is worked out.
* `Register.RevisesIn`: what the two have in common.
* `EndorsementChecked`: the kinds of records whose check covers the endorsement.
* `Endorsement.pairwise_of_check`: what it means that approvals go together.
-/

namespace PublicFunds

/-! ## Endorsements that pass their check -/

namespace Endorsement

/-- Approvals that come after others pass their own check, conflict with none of those, and do not
conflict with each other. -/
theorem of_checkAfter {format : AddressFormat} {earlier approvals : List Approval}
    (h : checkAfter format earlier approvals = .ok ()) :
    (∀ a ∈ approvals, a.check format = .ok ()) ∧
      (∀ a ∈ approvals, ∀ b ∈ earlier, a.conflictsWith b = false) ∧
      approvals.Pairwise fun a b => a.conflictsWith b = false := by
  induction approvals generalizing earlier with
  | nil =>
    exact ⟨fun a ha => absurd ha List.not_mem_nil, fun a ha => absurd ha List.not_mem_nil, .nil⟩
  | cons a rest ih =>
    rw [checkAfter] at h
    split at h
    · cases h
    · next own =>
      split at h
      · cases h
      · next apart =>
        obtain ⟨each, before, pairwise⟩ := ih h
        have free : ∀ b ∈ earlier, a.conflictsWith b = false := by
          intro b hb
          rw [Bool.eq_false_iff]
          exact fun hab => apart (List.any_eq_true.2 ⟨b, hb, hab⟩)
        refine ⟨?_, ?_, ?_⟩
        · intro b hb
          rcases List.mem_cons.1 hb with rfl | hb
          · exact own
          · exact each b hb
        · intro b hb c hc
          rcases List.mem_cons.1 hb with rfl | hb
          · exact free c hc
          · exact before b hb c (List.mem_cons_of_mem _ hc)
        · refine List.pairwise_cons.2 ⟨fun b hb => ?_, pairwise⟩
          rw [Approval.conflictsWith_comm]
          exact before b hb a (List.mem_cons_self ..)

/-- Approvals that go together pass their own check and do not conflict. -/
theorem pairwise_of_check {format : AddressFormat} {underWay : Bool} {e : Endorsement}
    (h : e.check format underWay = .ok ()) :
    (∀ a ∈ e.approvals, a.check format = .ok ()) ∧
      e.approvals.Pairwise fun a b => a.conflictsWith b = false := by
  unfold check at h
  split at h
  · cases h
  · obtain ⟨each, -, pairwise⟩ := of_checkAfter h
    exact ⟨each, pairwise⟩

end Endorsement

namespace Approval

/-- Approvals that do not conflict have different roles and different signers. -/
theorem conflictsWith_eq_false {a b : Approval} :
    a.conflictsWith b = false ↔ a.roleKey ≠ b.roleKey ∧ a.signerKey ≠ b.signerKey := by
  simp [conflictsWith]

/-- The signer of an approval that passes its check is an address. -/
theorem exists_decode_of_check {format : AddressFormat} {a : Approval}
    (h : a.check format = .ok ()) : ∃ raw, format.decode a.signer = .ok raw := by
  have signer := (Check.all_eq_ok_iff.1 h) ((format.check a.signer).mapError (.badSigner a.signer))
    (by simp)
  unfold AddressFormat.check at signer
  cases hd : format.decode a.signer with
  | error fault =>
    rw [hd] at signer
    cases signer
  | ok raw => exact ⟨raw, rfl⟩

end Approval

/-! ## Kinds whose check covers the endorsement -/

/-- A kind of record whose check covers the endorsement.  Nothing else that is checked depends on
the status or the endorsement, and it is checked before. -/
class EndorsementChecked (ρ : Type) {σ : outParam Type} [Record ρ] [Vetted ρ] [Lifecycle σ]
    [DecidableEq σ] [Governed ρ σ] : Prop where
  checkFields_withStatus : ∀ {format : AddressFormat} {r : ρ}, Vetted.checkFields format r = .ok () →
    ∀ s : σ, Vetted.checkFields format (Governed.withStatus r s) =
      Governed.checkEndorsement format (Governed.withStatus r s)
  checkFields_withEndorsement : ∀ {format : AddressFormat} {r : ρ},
    Vetted.checkFields format r = .ok () →
    ∀ e, Vetted.checkFields format (Governed.withEndorsement r e) =
      Governed.checkEndorsement format (Governed.withEndorsement r e)

instance : EndorsementChecked Budget where
  checkFields_withStatus h _ := Check.all_eq_getLast h (by rfl) (by exact List.cons_ne_nil _ _)
  checkFields_withEndorsement h _ := Check.all_eq_getLast h (by rfl) (by exact List.cons_ne_nil _ _)

instance : EndorsementChecked Procurement where
  checkFields_withStatus h _ := Check.all_eq_getLast h (by rfl) (by exact List.cons_ne_nil _ _)
  checkFields_withEndorsement h _ := Check.all_eq_getLast h (by rfl) (by exact List.cons_ne_nil _ _)

instance : EndorsementChecked Disbursement where
  checkFields_withStatus h _ := Check.all_eq_getLast h (by rfl) (by exact List.cons_ne_nil _ _)
  checkFields_withEndorsement h _ := Check.all_eq_getLast h (by rfl) (by exact List.cons_ne_nil _ _)

/-- A record that passes its check passes that of its endorsement. -/
theorem EndorsementChecked.checkEndorsement_of_checkFields {ρ σ : Type} [Record ρ] [Vetted ρ]
    [Lifecycle σ] [DecidableEq σ] [Governed ρ σ] [EndorsementChecked ρ] {format : AddressFormat}
    {r : ρ} (h : Vetted.checkFields format r = .ok ()) :
    Governed.checkEndorsement format r = .ok () := by
  have last := checkFields_withStatus h (Governed.status r)
  rw [Governed.withStatus_status, h] at last
  exact last.symm

/-- The approvals of a record that passes its check go together. -/
theorem Governed.pairwise_of_checkFields {ρ σ : Type} [Record ρ] [Vetted ρ] [Lifecycle σ]
    [DecidableEq σ] [Governed ρ σ] [EndorsementChecked ρ] {format : AddressFormat} {r : ρ}
    (h : Vetted.checkFields format r = .ok ()) :
    (∀ a ∈ (endorsement r).approvals, a.check format = .ok ()) ∧
      (endorsement r).approvals.Pairwise fun a b => a.conflictsWith b = false := by
  have covered := EndorsementChecked.checkEndorsement_of_checkFields h
  unfold checkEndorsement at covered
  cases hc : (endorsement r).check format (!Lifecycle.isInitial (status r)) with
  | error e =>
    rw [hc] at covered
    cases covered
  | ok u => exact Endorsement.pairwise_of_check hc

/-! ## The changes -/

/-- A record that passes all its checks has an id, and its fields pass. -/
theorem Vetted.of_check {ρ : Type} [Record ρ] [Vetted ρ] {format : AddressFormat} {r : ρ}
    (h : check format r = .ok ()) : Record.id r ≠ 0 ∧ checkFields format r = .ok () := by
  unfold check at h
  split at h
  · cases h
  · next hid => exact ⟨hid, h⟩

namespace Register

variable {ρ σ : Type} [Record ρ] [Vetted ρ] [Lifecycle σ] [DecidableEq σ] [Governed ρ σ]

/-- A record is found exactly if asking for it succeeds. -/
theorem get_eq_ok {ρ : Type} [Record ρ] {r : Register ρ} {store : Store} {id : RecordId}
    {record : ρ} : r.get store id = .ok record ↔ r.find store id = .ok (some record) := by
  unfold get
  split
  · next e h =>
    rw [h]
    constructor <;> intro h' <;> cases h'
  · next h =>
    rw [h]
    constructor <;> intro h' <;> cases h'
  · next found h =>
    rw [h]
    constructor <;> intro h' <;> cases h' <;> rfl

/-- A record that can be written is written under its id. -/
theorem stage_eq_ok {ρ : Type} [Record ρ] {r : Register ρ} {record : ρ} {batch : Batch}
    (h : r.stage record = .ok batch) : batch = [r.entry record] := by
  unfold stage at h
  split at h
  · cases h
  · cases h
    rfl

/-- A record is replaced by one that passes its checks. -/
theorem replace_eq_ok {r : Register ρ} {format : AddressFormat} {record answer : ρ} {batch : Batch}
    (h : r.replace format record = .ok (answer, batch)) :
    Vetted.check format record = .ok () ∧ answer = record ∧ batch = [r.entry record] := by
  unfold replace at h
  split at h
  · cases h
  · next hcheck =>
    split at h
    · cases h
    · next staged =>
      cases h
      exact ⟨hcheck, rfl, stage_eq_ok staged⟩

/-- What a step that has been worked out does: nothing, if the record is there already.  Otherwise
an arrow leads there, a quorum stands behind it if it takes one, and the record with its new status
passes its checks and is written. -/
theorem advance_eq_ok {r : Register ρ} {policy : Policy} {store : Store} {scores : ScoreSource}
    {id : RecordId} {next : σ} {answer : ρ} {batch : Batch}
    (h : r.advance policy store scores id next = .ok (answer, batch)) :
    ∃ record, r.find store id = .ok (some record) ∧
      ((Governed.status record = next ∧ answer = record ∧ batch = []) ∨
        (Governed.status record ≠ next ∧
          Lifecycle.follows (Governed.status record) next = true ∧
          (Lifecycle.gated next = true →
            policy.quorum.ensure scores (Governed.endorsement record) = .ok ()) ∧
          Vetted.check policy.addresses (Governed.withStatus record next) = .ok () ∧
          answer = Governed.withStatus record next ∧
          batch = [r.entry (Governed.withStatus record next)])) := by
  unfold advance at h
  split at h
  · cases h
  · next record hget =>
    refine ⟨record, get_eq_ok.1 hget, ?_⟩
    unfold Governed.transition at h
    simp only at h
    by_cases hsame : Governed.status record = next
    · rw [if_pos hsame] at h
      cases h
      exact .inl ⟨hsame, rfl, rfl⟩
    · refine .inr ⟨hsame, ?_⟩
      rw [if_neg hsame] at h
      by_cases hfollows : Lifecycle.follows (Governed.status record) next = true
      · rw [if_neg (by simp [hfollows])] at h
        by_cases hgated : Lifecycle.gated next = true
        · rw [if_pos hgated] at h
          cases hquorum : policy.quorum.ensure scores (Governed.endorsement record) with
          | error e =>
            rw [hquorum] at h
            cases h
          | ok u =>
            rw [hquorum] at h
            obtain ⟨hcheck, hanswer, hbatch⟩ := replace_eq_ok h
            exact ⟨hfollows, fun _ => rfl, hcheck, hanswer, hbatch⟩
        · rw [if_neg hgated] at h
          obtain ⟨hcheck, hanswer, hbatch⟩ := replace_eq_ok h
          exact ⟨hfollows, fun hg => absurd hg hgated, hcheck, hanswer, hbatch⟩
      · rw [if_pos (by simp [hfollows])] at h
        cases h

omit [DecidableEq σ] in
/-- What an approval that has been worked out does: the record with its new endorsement passes its
checks and is written. -/
theorem endorse_eq_ok {r : Register ρ} {policy : Policy} {store : Store} {scores : ScoreSource}
    {id : RecordId} {approval : Approval} {contract : String} {answer : ρ} {batch : Batch}
    (h : r.endorse policy store scores id approval contract = .ok (answer, batch)) :
    ∃ record e, r.find store id = .ok (some record) ∧
      policy.approve scores (Governed.endorsement record) approval contract = .ok e ∧
      Vetted.check policy.addresses (Governed.withEndorsement record e) = .ok () ∧
      answer = Governed.withEndorsement record e ∧
      batch = [r.entry (Governed.withEndorsement record e)] := by
  unfold endorse at h
  split at h
  · cases h
  · next record hget =>
    unfold Governed.endorse at h
    split at h
    · cases h
    · next changed happrove =>
      split at happrove
      · cases happrove
      · next e hpolicy =>
        cases happrove
        obtain ⟨hcheck, hanswer, hbatch⟩ := replace_eq_ok h
        exact ⟨record, e, get_eq_ok.1 hget, hpolicy, hcheck, hanswer, hbatch⟩

end Register

/-! ## Both changes at once -/

/-- An approval is only added where there is a contract. -/
theorem Policy.hasContract_of_approve {policy : Policy} {scores : ScoreSource} {e e' : Endorsement}
    {approval : Approval} {contract : String}
    (h : policy.approve scores e approval contract = .ok e') : e'.hasContract = true := by
  unfold approve at h
  simp only at h
  generalize (if Text.isBlank contract = true then e.contract else contract) = signed at h
  split at h
  · cases h
  · next given =>
    split at h
    · cases h
    · split at h
      · cases h
      · split at h
        · cases h
        · cases h
          rw [Endorsement.hasContract, Bool.eq_false_iff.2 given, Bool.not_false]

/-- A record whose status is the next one along an arrow, or whose endorsement is another one with a
contract, and which is otherwise the same. -/
inductive Governed.Revises {ρ σ : Type} [Record ρ] [Lifecycle σ] [DecidableEq σ] [Governed ρ σ]
    (x : ρ) : ρ → Prop where
  | status (s : σ) (follows : Lifecycle.follows (status x) s = true) : Revises x (withStatus x s)
  | endorsement (e : Endorsement) (contract : e.hasContract = true) :
      Revises x (withEndorsement x e)

section Revision

variable {ρ σ : Type} [Record ρ] [Lifecycle σ] [DecidableEq σ] [Governed ρ σ]

theorem Governed.Revises.id_eq {x y : ρ} (h : Revises x y) : Record.id y = Record.id x := by
  cases h with
  | status s follows => exact id_withStatus x s
  | endorsement e contract => exact id_withEndorsement x e

/-- A batch revises a stored record: it writes nothing, or the record with another status or another
endorsement, which passes its checks. -/
def Register.RevisesIn [Vetted ρ] (r : Register ρ) (format : AddressFormat) (store : Store)
    (batch : Batch) : Prop :=
  ∃ id x, r.find store id = .ok (some x) ∧ (batch = [] ∨ ∃ y, Governed.Revises x y ∧
    Vetted.check format y = .ok () ∧ batch = [r.entry y])

variable [Vetted ρ] {r : Register ρ} {policy : Policy} {store : Store}
  {scores : ScoreSource} {id : RecordId} {answer : ρ} {batch : Batch}

theorem Register.revisesIn_of_advance {next : σ}
    (h : r.advance policy store scores id next = .ok (answer, batch)) :
    r.RevisesIn policy.addresses store batch := by
  obtain ⟨x, found, ⟨-, -, rfl⟩ | ⟨-, follows, -, checked, -, rfl⟩⟩ := advance_eq_ok h
  · exact ⟨id, x, found, .inl rfl⟩
  · exact ⟨id, x, found, .inr ⟨_, .status next follows, checked, rfl⟩⟩

theorem Register.revisesIn_of_endorse {approval : Approval} {contract : String}
    (h : r.endorse policy store scores id approval contract = .ok (answer, batch)) :
    r.RevisesIn policy.addresses store batch := by
  obtain ⟨x, e, found, approved, checked, -, rfl⟩ := endorse_eq_ok h
  exact ⟨id, x, found, .inr ⟨_, .endorsement e (Policy.hasContract_of_approve approved), checked,
    rfl⟩⟩

end Revision

end PublicFunds
