import PublicFunds.Ledger.Book
import PublicFunds.Proofs.Bytes.Number
import PublicFunds.Proofs.Text.Utf8

/-!
# Stored values are read back

What is stored of a value is read back as the value, whatever is stored behind it.  There is one
proviso.  The length of a text and the number of elements of a list are stored in eight bytes, so
neither may take more.  It is enough to say so of the stored bytes as a whole, because every text
and every list is a part of them.

Forms are built from parts, and so is the proof: each part keeps the property.  In a list it takes
one thing more.  Elements without bytes would not show in the length of the whole.

* `Form.Faithful`: values are read back from fewer than 2^64 bytes.
* `Form.faithful_text`, `Form.Faithful.list`, `Fields.Faithful.field` and others: the parts.
* `FaithfulRecord`: the kinds of records that are read back, which are all there are.
* `Register.read_encode`: a stored record is read back.
-/

namespace PublicFunds

namespace Form

variable {α β : Type}

/-- Values are read back from fewer than 2^64 bytes, whatever comes after these. -/
def Faithful (form : Form α) : Prop :=
  ∀ a rest, (form.encode a).length < Bytes.reach 8 →
    form.decode (form.encode a ++ rest) = .ok (a, rest)

/-! ## Single values -/

theorem faithful_word64 : word64.Faithful := by
  intro n rest _
  have read : takeNumber 8 (Bytes.little 8 n.toNat ++ rest) = .ok (n.toNat, rest) :=
    takeNumber_little n.toNat_lt rest
  simp only [word64, read, Except.map, UInt64.ofNat_toNat]

theorem faithful_word32 : word32.Faithful := by
  intro n rest _
  have read : takeNumber 4 (Bytes.little 4 n.toNat ++ rest) = .ok (n.toNat, rest) :=
    takeNumber_little n.toNat_lt rest
  simp only [word32, read, Except.map, UInt32.ofNat_toNat]

theorem faithful_flag : flag.Faithful := by
  intro b rest _
  cases b <;> rfl

/-- A text and its length are taken off again. -/
theorem takeText_textBytes {bs : Bytes} (h : bs.length < Bytes.reach 8) (rest : Bytes) :
    takeText (textBytes bs ++ rest) = .ok (bs, rest) := by
  rw [takeText, textBytes, List.append_assoc, takeNumber_little h]
  simp only [Bytes.cut?_append]

/-- A text is shorter than its stored form. -/
theorem length_lt_of_textBytes {bs : Bytes} {n : Nat} (h : (textBytes bs).length < n) :
    bs.length < n := by
  rw [textBytes, List.length_append] at h
  omega

theorem faithful_text : text.Faithful := by
  intro s rest h
  have short := length_lt_of_textBytes h
  simp only [text, takeText_textBytes short, Utf8.text_bytes]

theorem faithful_amount : amount.Faithful := by
  intro a rest h
  have short := length_lt_of_textBytes h
  simp only [amount, takeText_textBytes short, Utf8.decode_encode, Amount.read_encode_text]

/-- An alternative is read back if it is one of those that are listed. -/
theorem faithful_choice [DecidableEq α] {all : List α} {name : α → String}
    (complete : ∀ a, a ∈ all) (few : all.length < Bytes.reach 4) :
    (choice all name).Faithful := by
  intro a rest _
  have place := List.idxOf_lt_length_of_mem (complete a)
  have read : takeNumber 4 (Bytes.little 4 (all.idxOf a) ++ rest) = .ok (all.idxOf a, rest) :=
    takeNumber_little (Nat.lt_trans place few) rest
  simp only [choice, read, List.getElem?_eq_getElem place, List.getElem_idxOf]

/-! ## Lists and renamings -/

/-- As many elements are taken as were put. -/
theorem takeMany_flatMap {form : Form α} (faithful : form.Faithful) {as : List α}
    (h : (as.flatMap form.encode).length < Bytes.reach 8) (rest : Bytes) :
    takeMany form as.length (as.flatMap form.encode ++ rest) = .ok (as, rest) := by
  induction as with
  | nil => rfl
  | cons a as ih =>
    rw [List.flatMap_cons, List.length_append] at h
    rw [List.length_cons, takeMany, List.flatMap_cons, List.append_assoc, faithful a _ (by omega)]
    simp only [ih (by omega)]

/-- A list has no more elements than bytes, if no element is without bytes. -/
theorem length_le_length_flatMap {form : Form α} (solid : ∀ a, form.encode a ≠ []) (as : List α) :
    as.length ≤ (as.flatMap form.encode).length := by
  induction as with
  | nil => exact Nat.le_refl 0
  | cons a as ih =>
    have one := List.length_pos_iff.2 (solid a)
    rw [List.flatMap_cons, List.length_append, List.length_cons]
    omega

theorem Faithful.list {form : Form α} (faithful : form.Faithful)
    (solid : ∀ a, form.encode a ≠ []) : form.list.Faithful := by
  intro as rest h
  have whole : (form.list.encode as).length = 8 + (as.flatMap form.encode).length := by
    simp [Form.list]
  have few := length_le_length_flatMap solid as
  have count : takeNumber 8 (Bytes.little 8 as.length ++ (as.flatMap form.encode ++ rest)) =
      .ok (as.length, as.flatMap form.encode ++ rest) := takeNumber_little (by omega) _
  simp only [Form.list, List.append_assoc, count]
  exact takeMany_flatMap faithful (by omega) rest

theorem Faithful.iso {form : Form α} (faithful : form.Faithful) {toα : β → α} {ofα : α → β}
    (inverse : ∀ b, ofα (toα b) = b) : (form.iso toα ofα).Faithful := by
  intro b rest h
  simp only [Form.iso, faithful (toα b) rest h, Except.map, inverse]

end Form

/-! ## Records -/

namespace Fields

variable {α β : Type}

/-- Some fields are read back from fewer than 2^64 bytes. -/
def Faithful (fields : Fields α) : Prop :=
  ∀ a rest, (fields.encode a).length < Bytes.reach 8 →
    fields.decode (fields.encode a ++ rest) = .ok (a, rest)

theorem faithful_nil : nil.Faithful := fun _ _ _ => rfl

theorem Faithful.form {fields : Fields α} (faithful : fields.Faithful) : fields.form.Faithful :=
  faithful

end Fields

/-- One more field in front is read back if it and the others are. -/
theorem Form.Faithful.field {α β : Type} {name : String} {form : Form α} {fields : Fields β}
    (first : form.Faithful) (others : fields.Faithful) :
    (Fields.field name form fields).Faithful := by
  rintro ⟨a, b⟩ rest h
  have whole : (form.encode a).length + (fields.encode b).length < Bytes.reach 8 := by
    simpa [Fields.field, Fields.cons] using h
  have front := first a (fields.encode b ++ rest) (by omega)
  have back := others b rest (by omega)
  simp only [Fields.field, Fields.cons, List.append_assoc, front, back]

/-- A kind of record that is read back. -/
class FaithfulRecord (ρ : Type) [Record ρ] : Prop where
  faithful : (Record.form : Form ρ).Faithful

open Form Fields

/-- The statuses of a lifecycle are read back if all of them are listed. -/
theorem faithful_lifecycle {σ : Type} [Lifecycle σ] [DecidableEq σ]
    (complete : ∀ s : σ, s ∈ Lifecycle.all)
    (few : (Lifecycle.all : List σ).length < Bytes.reach 4) :
    (Lifecycle.form σ).Faithful :=
  faithful_choice complete few

theorem faithful_approvals : Approval.form.list.Faithful := by
  have one : Approval.form.Faithful := by
    refine Faithful.iso (Fields.Faithful.form ?_) fun _ => rfl
    exact faithful_text.field <| faithful_text.field <| faithful_word64.field <|
      faithful_text.field faithful_nil
  refine one.list fun a => List.ne_nil_of_length_pos ?_
  simp only [Approval.form, Form.iso, Fields.form, Fields.field, Fields.cons, Form.text,
    Form.textBytes, List.length_append, Bytes.length_little]
  omega

instance : FaithfulRecord Scorecard where
  faithful := by
    show Scorecard.form.Faithful
    refine Faithful.iso (Fields.Faithful.form ?_) fun _ => rfl
    exact faithful_word64.field <| faithful_text.field <| faithful_text.field <|
      faithful_word32.field <| faithful_word32.field <| faithful_text.field <|
      faithful_text.field faithful_nil

instance : FaithfulRecord Budget where
  faithful := by
    show Budget.form.Faithful
    refine Faithful.iso (Fields.Faithful.form ?_) fun _ => rfl
    exact faithful_word64.field <| faithful_text.field <| faithful_text.field <|
      faithful_text.field <| faithful_amount.field <| faithful_text.field <| faithful_text.field <|
      (faithful_lifecycle (by rintro ⟨⟩ <;> decide) (by decide)).field <| faithful_text.field <|
      faithful_text.field <| faithful_approvals.field faithful_nil

instance : FaithfulRecord Procurement where
  faithful := by
    show Procurement.form.Faithful
    refine Faithful.iso (Fields.Faithful.form ?_) fun _ => rfl
    exact faithful_word64.field <| faithful_word64.field <| faithful_text.field <|
      faithful_text.field <| faithful_text.field <| faithful_text.field <| faithful_amount.field <|
      faithful_text.field <| faithful_text.field <|
      (faithful_lifecycle (by rintro ⟨⟩ <;> decide) (by decide)).field <| faithful_text.field <|
      faithful_text.field <| faithful_text.field <| faithful_approvals.field faithful_nil

instance : FaithfulRecord Disbursement where
  faithful := by
    show Disbursement.form.Faithful
    refine Faithful.iso (Fields.Faithful.form ?_) fun _ => rfl
    exact faithful_word64.field <| faithful_word64.field <| faithful_amount.field <|
      faithful_text.field <| (faithful_lifecycle (by rintro ⟨⟩ <;> decide) (by decide)).field <|
      faithful_text.field <| faithful_text.field <| faithful_text.field <| faithful_text.field <|
      faithful_approvals.field faithful_nil

instance : FaithfulRecord Delegation where
  faithful := by
    show Delegation.form.Faithful
    refine Faithful.iso (Fields.Faithful.form ?_) fun _ => rfl
    exact faithful_word64.field <| faithful_text.field <| faithful_text.field <|
      faithful_text.field <| faithful_word64.field <| faithful_flag.field <|
      faithful_text.field faithful_nil

instance (b : Book) : FaithfulRecord b.Item :=
  match b with
  | .scorecards => inferInstanceAs (FaithfulRecord Scorecard)
  | .budgets => inferInstanceAs (FaithfulRecord Budget)
  | .procurements => inferInstanceAs (FaithfulRecord Procurement)
  | .disbursements => inferInstanceAs (FaithfulRecord Disbursement)
  | .delegations => inferInstanceAs (FaithfulRecord Delegation)

/-- **A stored value is read back.** -/
theorem Register.read_encode {α : Type} {form : Form α} (faithful : form.Faithful) (kind : String)
    {a : α} (h : (form.encode a).length < Bytes.reach 8) :
    Register.read kind form (form.encode a) = .ok a := by
  have whole := faithful a [] h
  rw [List.append_nil] at whole
  rw [Register.read, whole]

end PublicFunds
