import PublicFunds.Text.Utf8

/-!
# Reading UTF-8 back

The bytes of a text are read back as the text.  A character is one to four bytes long, and the
reader knows from the first byte how many there are.  So it is enough to look at one character with
anything after it, once for each length.

* `Utf8.decodeFrom_char`: one character and what comes after it.
* `Utf8.decode_encode`: the whole text.
-/

namespace PublicFunds

namespace Utf8

/-- A character is the one with its number. -/
theorem ofNat_eq {c : Char} {n : Nat} (h : n = c.val.toNat) : Char.ofNat n = c := by
  rw [h]
  exact Char.ofNat_toNat c

/-- A byte made of a number below 256. -/
theorem toNat_byte {n : Nat} (h : n < 256) : (UInt8.ofNat n).toNat = n := by
  rw [UInt8.toNat_ofNat', Nat.mod_eq_of_lt h]

/-- A byte with six bits of a number. -/
theorem toNat_continuation (n : Nat) : (UInt8.ofNat (n % 64 + 0x80)).toNat = n % 64 + 0x80 :=
  toNat_byte (by omega)

/-- The second of three bytes may follow the first, since surrogates are not characters. -/
theorem allowsSecond_of_three {v : Nat} (least : 0x7ff < v) (most : v ≤ 0xffff)
    (scalar : v < 0xD800 ∨ 0xDFFF < v) :
    allowsSecond (UInt8.ofNat (v / 4096 % 16 + 0xe0)) (UInt8.ofNat (v / 64 % 64 + 0x80)) =
      true := by
  have first : (UInt8.ofNat (v / 4096 % 16 + 0xe0)).toNat = v / 4096 % 16 + 0xe0 :=
    toNat_byte (by omega)
  simp only [allowsSecond, first, toNat_continuation]
  repeat' split
  all_goals simp
  all_goals omega

/-- The second of four bytes may follow the first, since there are no more characters. -/
theorem allowsSecond_of_four {v : Nat} (least : 0xffff < v) (most : v < 0x110000) :
    allowsSecond (UInt8.ofNat (v / 262144 % 8 + 0xf0)) (UInt8.ofNat (v / 4096 % 64 + 0x80)) =
      true := by
  have first : (UInt8.ofNat (v / 262144 % 8 + 0xf0)).toNat = v / 262144 % 8 + 0xf0 :=
    toNat_byte (by omega)
  simp only [allowsSecond, first, toNat_continuation]
  repeat' split
  all_goals simp
  all_goals omega

/-- **One character is read back**, whatever comes after it. -/
theorem decodeFrom_char (c : Char) (index : Nat) (rest : Bytes) :
    ∃ j, decodeFrom index (String.utf8EncodeChar c ++ rest) = (c :: ·) <$> decodeFrom j rest := by
  have valid := c.valid
  have bound : c.val.toNat < 0xD800 ∨ 0xDFFF < c.val.toNat ∧ c.val.toNat < 0x110000 := valid
  generalize hv : c.val.toNat = v at bound
  have eq : ∀ n, n = v → Char.ofNat n = c := fun n hn => ofNat_eq (hn.trans hv.symm)
  unfold String.utf8EncodeChar
  simp only [hv]
  split
  · next one =>
    refine ⟨index + 1, ?_⟩
    rw [List.cons_append, List.nil_append, decodeFrom.eq_def]
    simp only [toNat_byte (show v < 256 by omega)]
    rw [if_pos (by omega), eq v rfl]
  split
  · next two =>
    have first : (UInt8.ofNat (v / 64 % 32 + 0xc0)).toNat = v / 64 % 32 + 0xc0 :=
      toNat_byte (by omega)
    refine ⟨index + 2, ?_⟩
    rw [List.cons_append, List.cons_append, List.nil_append, decodeFrom.eq_def]
    simp only [isContinuation, low, first, toNat_continuation]
    rw [if_neg (by omega), if_pos (by omega), if_pos (by simp; omega), eq _ (by omega)]
  split
  · next three =>
    have first : (UInt8.ofNat (v / 4096 % 16 + 0xe0)).toNat = v / 4096 % 16 + 0xe0 :=
      toNat_byte (by omega)
    have allowed := allowsSecond_of_three (v := v) (by omega) three (by omega)
    refine ⟨index + 3, ?_⟩
    rw [List.cons_append, List.cons_append, List.cons_append, List.nil_append, decodeFrom.eq_def]
    simp only [isContinuation, low, first, toNat_continuation, allowed]
    rw [if_neg (by omega), if_neg (by omega), if_pos (by omega), if_pos trivial,
      if_pos (by simp; omega), eq _ (by omega)]
  · next four =>
    have first : (UInt8.ofNat (v / 262144 % 8 + 0xf0)).toNat = v / 262144 % 8 + 0xf0 :=
      toNat_byte (by omega)
    have allowed := allowsSecond_of_four (v := v) (by omega) (by omega)
    refine ⟨index + 4, ?_⟩
    rw [List.cons_append, List.cons_append, List.cons_append, List.cons_append, List.nil_append,
      decodeFrom.eq_def]
    simp only [isContinuation, low, first, toNat_continuation, allowed]
    rw [if_neg (by omega), if_neg (by omega), if_neg (by omega), if_pos (by omega), if_pos trivial,
      if_pos (by simp; omega), if_pos (by simp; omega), eq _ (by omega)]

theorem decodeFrom_encode (cs : List Char) (index : Nat) :
    decodeFrom index (encode cs) = .ok cs := by
  induction cs generalizing index with
  | nil => simp [decodeFrom]
  | cons c cs ih =>
    obtain ⟨j, hj⟩ := decodeFrom_char c index (encode cs)
    rw [encode_cons, hj, ih]
    rfl

/-- **A text is read back.** -/
theorem decode_encode (cs : List Char) : decode (encode cs) = .ok cs := decodeFrom_encode cs 0

theorem text_bytes (s : String) : text (bytes s) = .ok s := by
  rw [text, bytes, decode_encode]
  exact congrArg Except.ok String.ofList_toList

end Utf8

end PublicFunds
