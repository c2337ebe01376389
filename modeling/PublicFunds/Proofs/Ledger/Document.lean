import PublicFunds.Ledger.Genesis
import PublicFunds.Proofs.Form.Shown

/-!
# Genesis files are read back

A ledger that stops writes everything it knows to a file, and another one starts from there.
Nothing may be lost on the way, whatever names and notes the officers have put into their records.
So every kind of record is read back from a document, and with it every section and every document.

* `Scorecard.shown`, `Budget.shown` and others: records in documents.
* `Section.shown`, `DisbursementSection.shown`: sections.
* `Genesis.read_text`: a genesis file is read back.
-/

namespace PublicFunds

open Form Fields

/-- The statuses of a lifecycle are read back if all are listed and no two have one name. -/
theorem shown_lifecycle {σ : Type} [Lifecycle σ] [DecidableEq σ]
    (complete : ∀ s : σ, s ∈ Lifecycle.all)
    (apart : ∀ s t : σ, Lifecycle.name s = Lifecycle.name t → s = t) :
    (Lifecycle.form σ).Shown :=
  shown_choice complete apart

/-! ## Records -/

theorem Approval.shown : Approval.form.Shown := by
  refine Shown.iso (Fields.Shown.form ?_ (by decide)) fun _ => rfl
  exact shown_text.field <| shown_text.field <| shown_word64.field <| shown_text.field shown_nil

theorem Scorecard.shown : Scorecard.form.Shown := by
  refine Shown.iso (Fields.Shown.form ?_ (by decide)) fun _ => rfl
  exact shown_word64.field <| shown_text.field <| shown_text.field <| shown_word32.field <|
    shown_word32.field <| shown_text.field <| shown_text.field shown_nil

theorem Budget.shown : Budget.form.Shown := by
  have status : (Lifecycle.form BudgetStatus).Shown :=
    shown_lifecycle (by rintro ⟨⟩ <;> decide) (by rintro ⟨⟩ ⟨⟩ <;> decide)
  refine Shown.iso (Fields.Shown.form ?_ (by decide)) fun _ => rfl
  exact shown_word64.field <| shown_text.field <| shown_text.field <| shown_text.field <|
    shown_amount.field <| shown_text.field <| shown_text.field <| status.field <|
    shown_text.field <| shown_text.field <| Approval.shown.list.field shown_nil

theorem Procurement.shown : Procurement.form.Shown := by
  have status : (Lifecycle.form ProcurementStatus).Shown :=
    shown_lifecycle (by rintro ⟨⟩ <;> decide) (by rintro ⟨⟩ ⟨⟩ <;> decide)
  refine Shown.iso (Fields.Shown.form ?_ (by decide)) fun _ => rfl
  exact shown_word64.field <| shown_word64.field <| shown_text.field <| shown_text.field <|
    shown_text.field <| shown_text.field <| shown_amount.field <| shown_text.field <|
    shown_text.field <| status.field <| shown_text.field <| shown_text.field <|
    shown_text.field <| Approval.shown.list.field shown_nil

theorem Disbursement.shown : Disbursement.form.Shown := by
  have status : (Lifecycle.form DisbursementStatus).Shown :=
    shown_lifecycle (by rintro ⟨⟩ <;> decide) (by rintro ⟨⟩ ⟨⟩ <;> decide)
  refine Shown.iso (Fields.Shown.form ?_ (by decide)) fun _ => rfl
  exact shown_word64.field <| shown_word64.field <| shown_amount.field <| shown_text.field <|
    status.field <| shown_text.field <| shown_text.field <| shown_text.field <|
    shown_text.field <| Approval.shown.list.field shown_nil

theorem Delegation.shown : Delegation.form.Shown := by
  refine Shown.iso (Fields.Shown.form ?_ (by decide)) fun _ => rfl
  exact shown_word64.field <| shown_text.field <| shown_text.field <| shown_text.field <|
    shown_word64.field <| shown_flag.field <| shown_text.field shown_nil

/-! ## Sections and documents -/

theorem DisbursedTotal.shown : DisbursedTotal.form.Shown := by
  refine Shown.iso (Fields.Shown.form ?_ (by decide)) fun _ => rfl
  exact shown_word64.field <| shown_amount.field shown_nil

/-- A section is read back if its records are. -/
theorem Section.shown {ρ : Type} {form : Form ρ} (records : form.Shown) :
    (Section.form form).Shown := by
  have distinct : ["records", "count"].Nodup := by decide
  refine Shown.iso (Fields.Shown.form ?_ distinct) fun _ => rfl
  exact records.list.field <| shown_word64.field shown_nil

theorem DisbursementSection.shown : DisbursementSection.form.Shown := by
  refine Shown.iso (Fields.Shown.form ?_ (by decide)) fun _ => rfl
  exact Disbursement.shown.list.field <| shown_word64.field <|
    DisbursedTotal.shown.list.field shown_nil

namespace Genesis

theorem shown : Genesis.form.Shown := by
  refine Shown.iso (Fields.Shown.form ?_ (by decide)) fun _ => rfl
  exact (Section.shown Scorecard.shown).optional <| (Section.shown Budget.shown).optional <|
    (Section.shown Procurement.shown).optional <| DisbursementSection.shown.optional <|
    (Section.shown Delegation.shown).optional shown_nil

/-- **A genesis file is read back**, whatever the document holds. -/
theorem read_text (g : Genesis) : Genesis.read g.text = some g := by
  rw [Genesis.read, Genesis.text, Json.parse_pretty (shown.spelled g), Option.bind_some,
    shown.read]

end Genesis

end PublicFunds
