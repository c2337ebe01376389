import PublicFunds.Configuration
import PublicFunds.Proofs.Address.Comparison
import PublicFunds.Proofs.Text.Trimming

/-!
# Whether an address that is written can be read

An address is written as its marker and the digits behind it.  When it is read, blanks around it are
dropped before the marker is looked for.  The digits are no blanks, so nothing is lost at the end,
and nothing is lost inside the marker or behind it.  But what the marker itself starts with may be a
blank.  Then this is dropped with the others and the marker is never found: what has been written is
refused, and so is every other text, since none starts with a blank once it is trimmed.

A configuration may have any marker, and its check does not look at it.  So there are configurations
that pass and under which nothing is an address.

* `AddressFormat.startsBlank`: the markers that are lost.
* `AddressFormat.decode_written`: under any other marker, what has been written is read back.
* `AddressFormat.decode_of_startsBlank`: under a marker that is lost, every text is refused.
* `Configuration.written_read`: what this comes to for a configuration that passes.
-/

namespace PublicFunds

namespace Hex

/-! ## Digits that are written -/

theorem isDigit_digit {n : Nat} (h : n < 16) : IsDigit (digit n) n := by
  have all : ∀ n < 16, (digit n).toNat < 128 ∧ value? (UInt8.ofNat (digit n).toNat) = some n := by
    decide
  exact ⟨(all n h).1, (all n h).2⟩

/-- The digits in which some bytes are written are their digits. -/
theorem spells_encode (raw : Bytes) : Spells (encode raw) raw := by
  induction raw with
  | nil => exact .nil
  | cons b raw ih =>
    have bound := b.toNat_lt
    exact .cons (isDigit_digit (by omega)) (isDigit_digit (by omega)) ih

theorem encode_ne_nil {raw : Bytes} (filled : raw ≠ []) : encode raw ≠ [] := by
  cases raw with
  | nil => exact absurd rfl filled
  | cons b raw => exact List.cons_ne_nil _ _

/-- No digit is a blank. -/
theorem isWhiteSpace_of_mem_encode {raw : Bytes} {c : Char} (h : c ∈ encode raw) :
    Text.isWhiteSpace c = false := by
  have all : ∀ n < 16, Text.isWhiteSpace (digit n) = false := by decide
  obtain ⟨b, -, hc⟩ := List.mem_flatMap.1 h
  have bound := b.toNat_lt
  rcases List.mem_pair.1 hc with rfl | rfl
  · exact all _ (by omega)
  · exact all _ (by omega)

end Hex

namespace AddressFormat

/-- The marker starts with a blank. -/
def startsBlank (format : AddressFormat) : Bool :=
  format.marker.toList.head?.any Text.isWhiteSpace

/-- The text that is written for some bytes. -/
def written (format : AddressFormat) (raw : Bytes) : List Char :=
  format.marker.toList ++ Hex.encode raw

variable {format : AddressFormat} {raw : Bytes}

theorem encode_eq_ok (length : raw.length = format.byteLength) :
    format.encode raw = .ok (String.ofList (format.written raw)) := if_pos length

/-- A blank at the start is all that trimming can take away from what has been written. -/
theorem trimChars_written (visible : format.startsBlank = false) (filled : raw ≠ []) :
    Text.trimChars (format.written raw) = format.written raw := by
  have digits := Hex.encode_ne_nil filled
  apply Text.trimChars_eq_self
  · intro c hc
    unfold written at hc
    unfold startsBlank at visible
    cases marker : format.marker.toList with
    | nil =>
      rw [marker, List.nil_append] at hc
      exact Hex.isWhiteSpace_of_mem_encode (List.mem_of_mem_head? hc)
    | cons d rest =>
      rw [marker, List.cons_append, List.head?_cons, Option.mem_some_iff] at hc
      rw [marker, List.head?_cons, Option.any_some] at visible
      rwa [← hc]
  · intro c hc
    rw [written, List.getLast?_append_of_ne_nil _ digits] at hc
    exact Hex.isWhiteSpace_of_mem_encode (List.mem_of_mem_getLast? hc)

/-- **Under a marker that is not lost, what has been written is read back.** -/
theorem decode_written (visible : format.startsBlank = false) (filled : raw ≠ [])
    (length : raw.length = format.byteLength) :
    format.decode (String.ofList (format.written raw)) = .ok raw := by
  have trimmed := trimChars_written visible filled
  refine decode_eq_ok_iff.2 ⟨length, ?_, Hex.encode raw, ?_, Hex.spells_encode raw⟩
  · rw [String.toList_ofList, trimmed]
    exact List.append_ne_nil_of_right_ne_nil _ (Hex.encode_ne_nil filled)
  · rw [String.toList_ofList, trimmed]
    rfl

/-- **Under a marker that is lost, every text is refused**, the blank ones as empty and the others
because they do not start with the marker. -/
theorem decode_of_startsBlank (lost : format.startsBlank = true) (text : String) :
    format.decode text = .error (if Text.isBlank text then .empty
      else .missingMarker (Text.trim text) format.marker) := by
  have none : after? format.marker.toList (Text.trimChars text.toList) = none := by
    cases found : after? format.marker.toList (Text.trimChars text.toList) with
    | none => rfl
    | some payload =>
      obtain ⟨c, first, blank⟩ := (Option.any_eq_true _ _).1 lost
      have split := append_of_after? found
      have start : c ∈ (Text.trimChars text.toList).head? := by
        rw [← split, List.head?_append, first]
        rfl
      rw [Text.isWhiteSpace_of_mem_head? start] at blank
      cases blank
  unfold decode
  simp only [none]
  by_cases empty : Text.trimChars text.toList = []
  · rw [if_pos empty, Text.isBlank, Text.trimChars_eq_nil_iff.1 empty]
    rfl
  · have shows : Text.isBlank text = false :=
      Bool.eq_false_iff.2 fun blank => empty (Text.trimChars_eq_nil_iff.2 blank)
    rw [if_neg empty, shows]
    rfl

end AddressFormat

namespace Configuration

theorem byteLength_ne_zero {config : Configuration} (accepted : config.check = .ok ()) :
    config.policy.addresses.byteLength ≠ 0 := by
  have each := Check.all_eq_ok_iff.1 accepted
  simpa using each _ (List.mem_cons_of_mem _ (List.mem_cons_self ..))

/-- **What a configuration that passes can read.**  All addresses that it writes are read back as
the bytes that they were written for exactly if its marker does not start with a blank.  If the
marker starts with one, it reads no address at all. -/
theorem written_read {config : Configuration} (accepted : config.check = .ok ()) :
    let format := config.policy.addresses
    ((∀ raw, raw.length = format.byteLength →
        ∃ address, format.encode raw = .ok address ∧ format.decode address = .ok raw) ↔
      format.startsBlank = false) ∧
      (format.startsBlank = true → ∀ text, format.decode text = .error (
        if Text.isBlank text then .empty else .missingMarker (Text.trim text) format.marker)) := by
  intro format
  have positive : format.byteLength ≠ 0 := byteLength_ne_zero accepted
  refine ⟨⟨fun all => ?_, fun visible raw length => ?_⟩, format.decode_of_startsBlank⟩
  · -- whatever bytes are written, reading them back takes a marker that is not lost
    obtain ⟨address, -, read⟩ := all (List.replicate format.byteLength 0) List.length_replicate
    rw [← Bool.not_eq_true]
    intro lost
    rw [format.decode_of_startsBlank lost] at read
    cases read
  · have filled : raw ≠ [] := by
      rintro rfl
      exact positive length.symm
    exact ⟨_, AddressFormat.encode_eq_ok length,
      AddressFormat.decode_written visible filled length⟩

/-- Addresses of two bytes whose marker starts with a blank. -/
def blankMarker : Configuration := ⟨none, ⟨⟨" 0x", 2⟩, .standard⟩, "info", none, none⟩

/-- The variables of a node that describe it. -/
def blankMarkerVariables (name : String) : Option String :=
  if name = "TC_ADDRESS_PREFIX" then some " 0x"
  else if name = "TC_ADDRESS_BYTES" then some "2" else none

/-- The standard configuration and the one with the blank both pass.  One reads what it writes, the
other does not. -/
theorem written_read_blankMarker :
    (standard.check = .ok () ∧ ∀ raw, raw.length = 20 → ∃ address,
      AddressFormat.standard.encode raw = .ok address ∧
        AddressFormat.standard.decode address = .ok raw) ∧
      Configuration.read blankMarkerVariables = .ok blankMarker ∧ blankMarker.check = .ok () ∧
        blankMarker.policy.addresses.encode [1, 2] = .ok " 0x0102" ∧
        blankMarker.policy.addresses.decode " 0x0102" = .error (.missingMarker "0x0102" " 0x") := by
  have accepted : standard.check = .ok () := by decide
  have accepted' : blankMarker.check = .ok () := by decide
  refine ⟨⟨accepted, (written_read accepted).1.2 (by decide)⟩, by decide, accepted', by decide, ?_⟩
  rw [(written_read accepted').2 (by decide)]
  decide

/-- **A configuration that passes need not read what it writes.** -/
theorem not_forall_decode_encode :
    ¬∀ config : Configuration, config.check = .ok () → ∀ raw address,
      config.policy.addresses.encode raw = .ok address →
        config.policy.addresses.decode address = .ok raw := by
  intro all
  have read := all blankMarker (by decide) [1, 2] " 0x0102" (by decide)
  revert read
  decide

end Configuration

end PublicFunds
