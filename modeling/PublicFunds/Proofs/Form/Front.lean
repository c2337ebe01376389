import PublicFunds.Proofs.Form.ReadBack

/-!
# Stored bytes determine the value

A stored value has no end mark, and still nobody can mistake where it ends.  Two things are needed
for this.  The first is that a value is read back whatever is stored behind it.  It says nothing
about bytes that were cut off, because these are not the stored bytes of anything.

The second is about the reader alone: it takes what it needs from the front, and what it took
without the bytes behind, it takes as well if there are more.  So if a torn value could be read,
then reading on with the missing bytes would give the same, with the missing bytes left over.  But
with the missing bytes the value is whole, and nothing is left over of a whole value.

The second property needs no bound on lengths.  It is kept by each part that forms are built from,
like the first.

* `Form.FromFront`: a reader that takes what it needs from the front.
* `Form.fromFront_text`, `Form.FromFront.list`, `Form.FromFront.field` and others: the parts.
* `Form.FromFront.decode_torn`: a torn value is not read.
* `Form.Faithful.eq_of_isPrefix`: no value is the beginning of another.
* `Book.determines`: the stored bytes of a record determine it, in all five books.
-/

namespace PublicFunds

/-- What was cut off from the front is cut off as well if more follows. -/
theorem Bytes.cut?_append_of_eq_some {n : Nat} {bs front rest : Bytes}
    (h : cut? n bs = some (front, rest)) (more : Bytes) :
    cut? n (bs ++ more) = some (front, rest ++ more) := by
  obtain ⟨rfl, rfl⟩ := append_of_cut? h
  rw [List.append_assoc, cut?_append]

namespace Form

variable {α β : Type}

/-- A reader takes what it needs from the front.  It takes the same if there are more bytes, and
leaves these as well. -/
def FromFront (take : Bytes → Except FormFault (α × Bytes)) : Prop :=
  ∀ bs a rest, take bs = .ok (a, rest) → ∀ more, take (bs ++ more) = .ok (a, rest ++ more)

/-! ## Single values -/

theorem fromFront_takeNumber (width : Nat) : FromFront (takeNumber width) := by
  intro bs n rest h more
  unfold takeNumber at h ⊢
  split at h
  · cases h
  · next digits after hcut =>
    cases h
    rw [Bytes.cut?_append_of_eq_some hcut more]

/-- A reader whose values are taken for something else. -/
theorem FromFront.map {take : Bytes → Except FormFault (α × Bytes)} (front : FromFront take)
    (f : α → β) : FromFront fun bs => (take bs).map fun parts => (f parts.1, parts.2) := by
  intro bs b rest h more
  simp only at h ⊢
  cases taken : take bs with
  | error fault =>
    rw [taken] at h
    cases h
  | ok parts =>
    rw [taken] at h
    cases h
    rw [front bs parts.1 parts.2 taken more]
    rfl

theorem fromFront_word64 : FromFront word64.decode := (fromFront_takeNumber 8).map UInt64.ofNat

theorem fromFront_word32 : FromFront word32.decode := (fromFront_takeNumber 4).map UInt32.ofNat

theorem fromFront_flag : FromFront flag.decode := by
  intro bs b rest h more
  cases bs with
  | nil => cases h
  | cons byte after =>
    simp only [flag, List.cons_append] at h ⊢
    split at h
    · next zero =>
      cases h
      rw [if_pos zero]
    · next nonzero =>
      split at h
      · next one =>
        cases h
        rw [if_neg nonzero, if_pos one]
      · cases h

theorem fromFront_takeText : FromFront takeText := by
  intro bs body rest h more
  unfold takeText at h ⊢
  split at h
  · cases h
  · next length after hlength =>
    rw [fromFront_takeNumber 8 _ _ _ hlength more]
    split at h
    · cases h
    · next hcut =>
      cases h
      simp only [Bytes.cut?_append_of_eq_some hcut more]

theorem fromFront_text : FromFront text.decode := by
  intro bs s rest h more
  simp only [text] at h ⊢
  split at h
  · cases h
  · next body after htaken =>
    rw [fromFront_takeText _ _ _ htaken more]
    split at h
    · cases h
    · next hs =>
      cases h
      simp only [hs]

theorem fromFront_amount : FromFront amount.decode := by
  intro bs a rest h more
  simp only [amount] at h ⊢
  split at h
  · cases h
  · next body after htaken =>
    rw [fromFront_takeText _ _ _ htaken more]
    split at h
    · cases h
    · next hutf8 =>
      split at h
      · cases h
      · next hread =>
        cases h
        simp only [hutf8, hread]

theorem fromFront_choice [DecidableEq α] (all : List α) (name : α → String) :
    FromFront (choice all name).decode := by
  intro bs a rest h more
  simp only [choice] at h ⊢
  split at h
  · cases h
  · next index after hindex =>
    rw [fromFront_takeNumber 4 _ _ _ hindex more]
    split at h
    · cases h
    · next hfound =>
      cases h
      simp only [hfound]

/-! ## Lists, renamings and fields -/

theorem fromFront_takeMany {form : Form α} (front : FromFront form.decode) (count : Nat) :
    FromFront (takeMany form count) := by
  induction count with
  | zero =>
    intro bs as rest h more
    cases h
    rfl
  | succ count ih =>
    intro bs as rest h more
    rw [takeMany] at h ⊢
    split at h
    · cases h
    · next a after ha =>
      rw [front _ _ _ ha more]
      split at h
      · cases h
      · next others left hothers =>
        cases h
        simp only [ih _ _ _ hothers more]

theorem FromFront.list {form : Form α} (front : FromFront form.decode) :
    FromFront form.list.decode := by
  intro bs as rest h more
  simp only [Form.list] at h ⊢
  split at h
  · cases h
  · next count after hcount =>
    rw [fromFront_takeNumber 8 _ _ _ hcount more]
    exact fromFront_takeMany front count _ _ _ h more

theorem FromFront.iso {form : Form α} (front : FromFront form.decode) {toα : β → α} {ofα : α → β} :
    FromFront (form.iso toα ofα).decode :=
  front.map ofα

theorem FromFront.form {fields : Fields α} (front : FromFront fields.decode) :
    FromFront fields.form.decode :=
  front

theorem fromFront_nil : FromFront Fields.nil.decode := by
  intro bs a rest h more
  cases h
  rfl

/-- One more field in front of others. -/
theorem FromFront.field {name : String} {form : Form α} {fields : Fields β}
    (first : FromFront form.decode) (others : FromFront fields.decode) :
    FromFront (Fields.field name form fields).decode := by
  intro bs ab rest h more
  simp only [Fields.field, Fields.cons] at h ⊢
  split at h
  · cases h
  · next a after ha =>
    rw [first _ _ _ ha more]
    split at h
    · cases h
    · next b left hb =>
      cases h
      simp only [others _ _ _ hb more]

/-! ## Torn values -/

/-- **A torn value is not read.**  It may lack any of the bytes at its end, but at least one. -/
theorem FromFront.decode_torn {form : Form α} (front : FromFront form.decode)
    (faithful : form.Faithful) {a : α} (short : (form.encode a).length < Bytes.reach 8)
    {torn : Bytes} (start : torn <+: form.encode a) (proper : torn ≠ form.encode a) :
    ∃ fault, form.decode torn = .error fault := by
  cases read : form.decode torn with
  | error fault => exact ⟨fault, rfl⟩
  | ok parts =>
    obtain ⟨b, rest⟩ := parts
    obtain ⟨missing, whole⟩ := start
    have reading := front torn b rest read missing
    have read' := faithful a [] short
    rw [List.append_nil, ← whole, reading] at read'
    have left : rest ++ missing = [] := congrArg Prod.snd (Except.ok.inj read')
    rw [(List.append_eq_nil_iff.1 left).2, List.append_nil] at whole
    exact absurd whole proper

/-- **No value is the beginning of another.** -/
theorem Faithful.eq_of_isPrefix {form : Form α} (faithful : form.Faithful) {a b : α}
    (shortA : (form.encode a).length < Bytes.reach 8)
    (shortB : (form.encode b).length < Bytes.reach 8) (start : form.encode a <+: form.encode b) :
    a = b := by
  obtain ⟨more, whole⟩ := start
  have readA := faithful a more shortA
  have readB := faithful b [] shortB
  rw [List.append_nil, ← whole, readA] at readB
  exact congrArg Prod.fst (Except.ok.inj readB)

end Form

/-! ## Records -/

open Form in
theorem fromFront_approvals : FromFront Approval.form.list.decode := by
  have one : FromFront Approval.form.decode := by
    refine FromFront.iso (FromFront.form ?_)
    exact fromFront_text.field <| fromFront_text.field <| fromFront_word64.field <|
      fromFront_text.field fromFront_nil
  exact one.list

namespace Book

open Form

/-- The records of every book are read from the front. -/
theorem fromFront (b : Book) : FromFront (Record.form : Form b.Item).decode := by
  cases b with
  | scorecards =>
    show FromFront Scorecard.form.decode
    refine FromFront.iso (FromFront.form ?_)
    exact fromFront_word64.field <| fromFront_text.field <|
      fromFront_text.field <| fromFront_word32.field <| fromFront_word32.field <|
      fromFront_text.field <| fromFront_text.field fromFront_nil
  | budgets =>
    show FromFront Budget.form.decode
    refine FromFront.iso (FromFront.form ?_)
    exact fromFront_word64.field <| fromFront_text.field <|
      fromFront_text.field <| fromFront_text.field <| fromFront_amount.field <|
      fromFront_text.field <| fromFront_text.field <|
      (fromFront_choice Lifecycle.all Lifecycle.name).field <| fromFront_text.field <|
      fromFront_text.field <| fromFront_approvals.field fromFront_nil
  | procurements =>
    show FromFront Procurement.form.decode
    refine FromFront.iso (FromFront.form ?_)
    exact fromFront_word64.field <| fromFront_word64.field <|
      fromFront_text.field <| fromFront_text.field <| fromFront_text.field <|
      fromFront_text.field <| fromFront_amount.field <| fromFront_text.field <|
      fromFront_text.field <| (fromFront_choice Lifecycle.all Lifecycle.name).field <|
      fromFront_text.field <| fromFront_text.field <| fromFront_text.field <|
      fromFront_approvals.field fromFront_nil
  | disbursements =>
    show FromFront Disbursement.form.decode
    refine FromFront.iso (FromFront.form ?_)
    exact fromFront_word64.field <| fromFront_word64.field <|
      fromFront_amount.field <| fromFront_text.field <|
      (fromFront_choice Lifecycle.all Lifecycle.name).field <| fromFront_text.field <|
      fromFront_text.field <| fromFront_text.field <| fromFront_text.field <|
      fromFront_approvals.field fromFront_nil
  | delegations =>
    show FromFront Delegation.form.decode
    refine FromFront.iso (FromFront.form ?_)
    exact fromFront_word64.field <| fromFront_text.field <|
      fromFront_text.field <| fromFront_text.field <| fromFront_word64.field <|
      fromFront_flag.field <| fromFront_text.field fromFront_nil

/-- **The stored bytes of a record determine it**, in each of the five books.  The record is read
back whatever is stored behind it, and if anything at its end is missing, it is unreadable.  No
record is the beginning of another one.  The hypothesis about lengths is true of whatever fits into
a memory with addresses of eight bytes. -/
theorem determines (b : Book) {x : b.Item}
    (short : ((Record.form : Form b.Item).encode x).length < Bytes.reach 8) :
    let stored := (Record.form : Form b.Item).encode
    let read := Register.read (Record.kind b.Item) (Record.form : Form b.Item)
    (∀ more, read (stored x ++ more) = .ok x) ∧
      (∀ torn, torn <+: stored x → torn ≠ stored x →
        ∃ account, read torn = .error (.unreadable (Record.kind b.Item) account)) ∧
      ∀ y, (stored y).length < Bytes.reach 8 → stored x <+: stored y → x = y := by
  intro stored read
  have faithful : (Record.form : Form b.Item).Faithful := FaithfulRecord.faithful
  refine ⟨fun more => ?_, fun torn start proper => ?_, fun y shortY start => ?_⟩
  · have whole : (Record.form : Form b.Item).decode (stored x ++ more) = .ok (x, more) :=
      faithful x more short
    simp only [read, Register.read, whole]
  · obtain ⟨fault, unread⟩ := b.fromFront.decode_torn faithful short start proper
    refine ⟨fault.message, ?_⟩
    simp only [read, Register.read, unread]
  · exact faithful.eq_of_isPrefix short shortY start

/-- A payment that has been approved once. -/
def approvedPayment : Disbursement :=
  ⟨7, 1, ⟨0x1f4, by decide⟩, "EUR", .scheduled, "", "late", "xbb",
    ⟨"contract", [⟨"xaa", "treasurer", 1, "first"⟩]⟩⟩

/-- An approved payment is read with the beginning of the next value behind it, but not without its
last byte. -/
theorem determines_approvedPayment :
    let stored := Disbursement.form.encode approvedPayment
    let read := Register.read "disbursement" Disbursement.form
    read (stored ++ [0, 0x78]) = .ok approvedPayment ∧
      ∃ account, read stored.dropLast = .error (.unreadable "disbursement" account) := by
  have short : (Disbursement.form.encode approvedPayment).length < Bytes.reach 8 := by
    decide +kernel
  have torn : (Disbursement.form.encode approvedPayment).dropLast ≠
      Disbursement.form.encode approvedPayment := by decide +kernel
  have determined := @determines .disbursements approvedPayment short
  exact ⟨determined.1 _, determined.2.1 _ (List.dropLast_prefix _) torn⟩

end Book

end PublicFunds
