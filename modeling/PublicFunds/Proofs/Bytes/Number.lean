import PublicFunds.Amount
import PublicFunds.Text.Utf8

/-!
# Reading amounts back

The text of an amount is read back as the amount.  Digits are read from the highest to the lowest,
and a number is written the same way round, so the last digit is what one more step of either adds.
An amount has at most sixty-four digits, as many as the reader takes.

* `Hex.readNumber_number`: a number is read back.
* `Amount.read_encode_text`: an amount is read back.
-/

namespace PublicFunds

namespace Hex

/-- A digit is one byte long, and it has its value. -/
theorem exists_byte_of_digit {n : Nat} (h : n < 16) :
    ∃ b, String.utf8EncodeChar (digit n) = [b] ∧ value? b = some n := by
  have all : ∀ n < 16, (String.utf8EncodeChar (digit n)).map value? = [some n] := by decide
  have one := all n h
  rcases hd : String.utf8EncodeChar (digit n) with _ | ⟨b, _ | ⟨c, rest⟩⟩
  · rw [hd] at one
    cases one
  · rw [hd] at one
    exact ⟨b, rfl, (List.cons.inj one).1⟩
  · rw [hd] at one
    exact absurd (congrArg List.length one) (by simp)

/-- Digits are read one stretch after the other. -/
theorem readNumber_append {position sofar n : Nat} {front : Bytes}
    (h : readNumber position sofar front = .ok n) (back : Bytes) :
    readNumber position sofar (front ++ back) = readNumber (position + front.length) n back := by
  induction front generalizing position sofar with
  | nil =>
    rw [readNumber] at h
    cases h
    rfl
  | cons b front ih =>
    rw [List.cons_append, readNumber, List.length_cons]
    rw [readNumber] at h
    cases hd : value? b with
    | none =>
      rw [hd] at h
      cases h
    | some d =>
      rw [hd] at h
      simp only at h ⊢
      rw [ih h, Nat.add_right_comm, ← Nat.add_assoc]

/-- **A number is read back.** -/
theorem readNumber_number (position n : Nat) :
    readNumber position 0 (Utf8.encode (number n)) = .ok n := by
  induction n using Nat.strongRecOn generalizing position with
  | ind n ih =>
    rw [number]
    split
    · next small =>
      obtain ⟨b, hb, hvalue⟩ := exists_byte_of_digit small
      rw [Utf8.encode_cons, hb]
      simp [readNumber, hvalue]
    · next large =>
      obtain ⟨b, hb, hvalue⟩ := exists_byte_of_digit (Nat.mod_lt n (by decide : 16 > 0))
      rw [Utf8.encode_append, readNumber_append (ih (n / 16) (by omega) position), Utf8.encode_cons,
        hb]
      simp only [Utf8.encode_nil, List.append_nil, readNumber, hvalue]
      congr 1
      omega

/-- A number below a power of sixteen has at most as many digits. -/
theorem length_number_le {n width : Nat} (positive : 0 < width) (h : n < Nat.pow 16 width) :
    (Utf8.encode (number n)).length ≤ width := by
  induction width generalizing n with
  | zero => exact absurd positive (Nat.lt_irrefl 0)
  | succ width ih =>
    rw [number]
    split
    · next small =>
      obtain ⟨b, hb, -⟩ := exists_byte_of_digit small
      rw [Utf8.encode_cons, hb]
      simp
    · next large =>
      obtain ⟨b, hb, -⟩ := exists_byte_of_digit (Nat.mod_lt n (by decide : 16 > 0))
      have below : n < Nat.pow 16 width * 16 := h
      have wide : 0 < width := by
        rcases Nat.eq_zero_or_pos width with rfl | hw
        · have one : Nat.pow 16 0 = 1 := rfl
          omega
        · exact hw
      have front := ih wide (n := n / 16) (by omega)
      rw [Utf8.encode_append, List.length_append, Utf8.encode_cons, hb]
      simpa using front

theorem number_ne_nil (n : Nat) : Utf8.encode (number n) ≠ [] := by
  rw [number]
  split
  · next small =>
    obtain ⟨b, hb, -⟩ := exists_byte_of_digit small
    rw [Utf8.encode_cons, hb]
    exact List.cons_ne_nil _ _
  · obtain ⟨b, hb, -⟩ := exists_byte_of_digit (Nat.mod_lt n (by decide : 16 > 0))
    rw [Utf8.encode_append, Utf8.encode_cons, hb]
    exact List.append_ne_nil_of_right_ne_nil _ (List.cons_ne_nil _ _)

end Hex

namespace Amount

/-- The mark and the digits of an amount. -/
theorem encode_text (a : Amount) :
    Utf8.encode a.text = 0x30 :: 0x78 :: Utf8.encode (Hex.number a.toNat) := by
  rw [text, Utf8.encode_cons, Utf8.encode_cons]
  rfl

/-- **An amount is read back.** -/
theorem read_encode_text (a : Amount) : read (Utf8.encode a.text) = .ok a := by
  have digits : (Utf8.encode (Hex.number a.toNat)).length ≤ 64 :=
    Hex.length_number_le (by decide) a.toNat_lt
  have some : (Utf8.encode (Hex.number a.toNat)).length ≠ 0 :=
    fun h => Hex.number_ne_nil _ (List.length_eq_zero_iff.1 h)
  rw [encode_text, read, readDigits, if_neg (by omega), Hex.readNumber_number]
  simp

end Amount

end PublicFunds
