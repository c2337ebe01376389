import PublicFunds.Form.Fields
import PublicFunds.Proofs.Json.Reader

/-!
# Values in documents are read back

The JSON value of a value is read back as the value, and it can be written as a text.  As with the
stored bytes, both are kept by every part that forms are built from, but here nothing has a length
that might not fit.  What a record takes beyond its parts is that no two of its fields have one
name, since its reader finds the fields by their names.

* `Form.Shown`: values in documents are read back.
* `Form.shown_text`, `Form.Shown.list`, `Form.Shown.field` and others: the parts.
* `Fields.Shown.form`: a record whose fields have different names.
-/

namespace PublicFunds

/-! ## Numbers as they are written -/

namespace Decimal

theorem isDigit_digit {n : Nat} (h : n < 10) : Json.isDigit (digit n) = true := by
  have value : (digit n).toNat = 48 + n := by
    rw [digit, UInt8.toNat_ofNat']
    exact Nat.mod_eq_of_lt (by omega)
  simp only [Json.isDigit, value, Bool.and_eq_true, decide_eq_true_eq]
  omega

theorem isDigit_of_mem_digits {n : Nat} : ∀ b ∈ digits n, Json.isDigit b = true := by
  fun_induction digits n with
  | case1 n small =>
    intro b hb
    rw [List.mem_singleton.1 hb]
    exact isDigit_digit small
  | case2 n large ih =>
    intro b hb
    rcases List.mem_append.1 hb with front | last
    · exact ih b front
    · rw [List.mem_singleton.1 last]
      exact isDigit_digit (Nat.mod_lt _ (by decide))

/-- Only zero is written with a zero in front. -/
theorem exists_digits_eq {n : Nat} (h : n ≠ 0) : ∃ b rest, digits n = b :: rest ∧ b ≠ 0x30 := by
  fun_induction digits n with
  | case1 n small =>
    refine ⟨_, [], rfl, fun zero => h ?_⟩
    have value := digitValue?_digit small
    rw [zero] at value
    exact (Option.some.inj value).symm
  | case2 n large ih =>
    obtain ⟨b, rest, first, nonzero⟩ := ih (by omega)
    exact ⟨b, rest ++ [digit (n % 10)], by rw [first, List.cons_append], nonzero⟩

/-- A number is written as one. -/
theorem isNumber_digits (n : Nat) : Json.isNumber (digits n) = true := by
  by_cases zero : n = 0
  · subst zero
    rw [digits]
    rfl
  · obtain ⟨b, rest, first, nonzero⟩ := exists_digits_eq zero
    have each := isDigit_of_mem_digits (n := n)
    rw [first] at each ⊢
    have digit := each b (List.mem_cons_self ..)
    have unsigned : b ≠ 0x2D := by
      rintro rfl
      cases digit
    have tail : (rest ++ []).dropWhile Json.isDigit = [] :=
      List.dropWhile_append_of_pos fun b' hb' => each b' (List.mem_cons_of_mem _ hb')
    rw [List.append_nil] at tail
    simp [Json.isNumber, Json.isUnsigned, Json.digitsThen, unsigned, nonzero, digit, tail,
      Json.isFractionTail]

end Decimal

/-! ## Single values -/

/-- Values in documents are read back, and can be written as a text. -/
structure Form.Shown {α : Type} (form : Form α) : Prop where
  spelled : ∀ a, (form.toJson a).Spelled
  read : ∀ a, form.ofJson? (form.toJson a) = some a

namespace Form

variable {α β : Type}

/-- A number can be written as a text. -/
theorem spelled_number (n : Nat) : Json.Spelled (.number (Decimal.digits n)) := by
  refine .number (Decimal.isNumber_digits n) fun b hb => ?_
  have digit := Decimal.isDigit_of_mem_digits b hb
  simp only [Json.isNumberByte, digit, Bool.true_or]

theorem shown_word64 : word64.Shown where
  spelled n := spelled_number n.toNat
  read n := by
    simp only [word64, natural?, Decimal.value?_digits, Option.bind_some, if_pos n.toNat_lt,
      UInt64.ofNat_toNat]

theorem shown_word32 : word32.Shown where
  spelled n := spelled_number n.toNat
  read n := by
    simp only [word32, natural?, Decimal.value?_digits, Option.bind_some, if_pos n.toNat_lt,
      UInt32.ofNat_toNat]

theorem shown_flag : flag.Shown where
  spelled b := .flag b
  read _ := rfl

theorem shown_text : text.Shown where
  spelled s := .string (Json.isBody_escape s.toList)
  read s := Json.bodyText?_escape s

/-- A number is written with digits. -/
theorem exists_digit_of_mem_number {n : Nat} :
    ∀ c ∈ Hex.number n, ∃ d < 16, c = Hex.digit d := by
  fun_induction Hex.number n with
  | case1 n small =>
    intro c hc
    exact ⟨n, small, List.mem_singleton.1 hc⟩
  | case2 n large ih =>
    intro c hc
    rcases List.mem_append.1 hc with front | last
    · exact ih c front
    · exact ⟨n % 16, Nat.mod_lt _ (by decide), List.mem_singleton.1 last⟩

/-- Nothing is escaped in the text of an amount. -/
theorem escape_text (a : Amount) : Json.escape a.text = Utf8.encode a.text := by
  have digits : ∀ d < 16, Json.escapeChar (Hex.digit d) = [Hex.digit d] := by decide
  refine Json.escape_of_forall fun c hc => ?_
  rcases List.mem_cons.1 hc with rfl | hc
  · rfl
  rcases List.mem_cons.1 hc with rfl | hc
  · rfl
  obtain ⟨d, small, rfl⟩ := exists_digit_of_mem_number c hc
  exact digits d small

theorem shown_amount : amount.Shown where
  spelled a := by
    have body := Json.isBody_escape a.text
    rw [escape_text] at body
    exact .string body
  read a := by
    have text := Json.bodyText?_escape (String.ofList a.text)
    rw [String.toList_ofList, escape_text] at text
    simp only [amount, Json.text?, text, Utf8.bytes, String.toList_ofList, Amount.read_encode_text]

/-- An alternative is read back if all are listed and no two have one name. -/
theorem shown_choice [DecidableEq α] {all : List α} {name : α → String}
    (complete : ∀ a, a ∈ all) (apart : ∀ a b, name a = name b → a = b) :
    (choice all name).Shown where
  spelled a := .string (Json.isBody_escape (name a).toList)
  read a := by
    have text : choiceName? (Json.ofText (name a)) = some (name a) :=
      Json.bodyText?_escape (name a)
    simp only [choice, text, Option.bind_some]
    cases found : all.find? fun b => name b == name a with
    | none => exact absurd (beq_self_eq_true _) (List.find?_eq_none.1 found a (complete a))
    | some b =>
      have same : name b = name a := by simpa using List.find?_some found
      rw [apart b a same]

/-! ## Lists and renamings -/

theorem ofItems?_map {form : Form α} (shown : form.Shown) (as : List α) :
    ofItems? form (as.map form.toJson) = some as := by
  induction as with
  | nil => rfl
  | cons a as ih => simp only [List.map_cons, ofItems?, shown.read, ih]

theorem Shown.list {form : Form α} (shown : form.Shown) : form.list.Shown where
  spelled as := by
    refine .array fun j hj => ?_
    obtain ⟨a, -, rfl⟩ := List.mem_map.1 hj
    exact shown.spelled a
  read as := ofItems?_map shown as

theorem Shown.iso {form : Form α} (shown : form.Shown) {toα : β → α} {ofα : α → β}
    (inverse : ∀ b, ofα (toα b) = b) : (form.iso toα ofα).Shown where
  spelled b := shown.spelled (toα b)
  read b := by simp only [Form.iso, shown.read, Option.map_some, inverse]

end Form

/-! ## Records -/

namespace Fields

variable {α β : Type}

/-- The values of some fields are read back. -/
structure Shown (fields : Fields α) : Prop where
  count : ∀ a, (fields.toValues a).length = fields.names.length
  spelled : ∀ a, ∀ j ∈ fields.toValues a, j.Spelled
  read : ∀ a, fields.ofValues? ((fields.toValues a).map some) = some a

theorem shown_nil : nil.Shown where
  count _ := rfl
  spelled _ _ hj := absurd hj List.not_mem_nil
  read _ := rfl

/-- One more field in front is read back if it and the others are. -/
theorem Shown.cons {name : String} {form : Form α} {missing : Option α} {fields : Fields β}
    (first : form.Shown) (others : fields.Shown) :
    (Fields.cons name form missing fields).Shown where
  count ab := congrArg (· + 1) (others.count ab.2)
  spelled ab j hj := by
    rcases List.mem_cons.1 hj with rfl | hj
    · exact first.spelled ab.1
    · exact others.spelled ab.2 j hj
  read ab := by
    simp only [Fields.cons, List.map_cons, Option.elim_some, first.read, others.read]

/-- The fields of an object have their names. -/
theorem named?_zip (names : List String) (values : List Json) :
    named? ((names.map fun name => Json.escape name.toList).zip values) =
      some (names.zip values) := by
  induction names generalizing values with
  | nil => rfl
  | cons name names ih =>
    cases values with
    | nil => rfl
    | cons value values =>
      simp only [List.map_cons, List.zip_cons_cons, named?, Json.bodyText?_escape, ih]

/-- A field with another name is passed over. -/
theorem pick?_cons_of_notMem {name : String} {names : List String} (h : name ∉ names)
    (value : Json) (fields : List (String × Json)) :
    pick? ((name, value) :: fields) names = pick? fields names := by
  induction names with
  | nil => rfl
  | cons other names ih =>
    obtain ⟨differs, rest⟩ := not_or.1 (mt List.mem_cons.2 h)
    have passed : only? ((name, value) :: fields) other = only? fields other := by
      simp [only?, differs]
    rw [pick?, pick?, passed, ih rest]

/-- Fields with different names are found under them. -/
theorem pick?_zip {names : List String} (distinct : names.Nodup) {values : List Json}
    (count : values.length = names.length) :
    pick? (names.zip values) names = some (values.map some) := by
  induction names generalizing values with
  | nil =>
    obtain rfl := List.length_eq_zero_iff.1 count
    rfl
  | cons name names ih =>
    obtain ⟨new, distinct⟩ := List.nodup_cons.1 distinct
    cases values with
    | nil => cases count
    | cons value values =>
      have alone : (names.zip values).filter (fun field => field.1 == name) = [] := by
        refine List.filter_eq_nil_iff.2 fun field hfield same => new ?_
        rw [← beq_iff_eq.1 same]
        exact (List.of_mem_zip hfield).1
      have found : only? ((name, value) :: names.zip values) name = some (some value) := by
        simp [only?, alone]
      rw [List.zip_cons_cons, pick?, found, pick?_cons_of_notMem new,
        ih distinct (Nat.succ.inj count)]
      rfl

/-- A record is read back if no two of its fields have one name. -/
theorem Shown.form {fields : Fields α} (shown : fields.Shown) (distinct : fields.names.Nodup) :
    fields.form.Shown where
  spelled a := by
    refine .object (fun f hf => ?_) fun f hf => ?_
    · obtain ⟨name, -, same⟩ := List.mem_map.1 (List.of_mem_zip hf).1
      rw [← same]
      exact Json.isBody_escape name.toList
    · exact shown.spelled a _ (List.of_mem_zip hf).2
  read a := by
    simp only [Fields.form, values?, named?_zip, pick?_zip distinct (shown.count a),
      Option.bind_some, shown.read]

end Fields

/-- One more field in front that must be there. -/
theorem Form.Shown.field {α β : Type} {name : String} {form : Form α} {fields : Fields β}
    (first : form.Shown) (others : fields.Shown) : (Fields.field name form fields).Shown :=
  others.cons first

/-- One more field in front that may be missing. -/
theorem Form.Shown.optional {α β : Type} {name : String} {form : Form α} {missing : α}
    {fields : Fields β} (first : form.Shown) (others : fields.Shown) :
    (Fields.optional name form missing fields).Shown :=
  others.cons first

end PublicFunds
