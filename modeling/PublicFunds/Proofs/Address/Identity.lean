import PublicFunds.Address
import PublicFunds.Key
import PublicFunds.Proofs.Text.CaseVariant

/-!
# One officer, one key

An address may be typed with blanks around it and with its digits in either case.  Approvals,
scorecards and delegations are not compared by address but by key, so the two notions have to agree:
an officer who could sign under two keys would count twice.

The marker is matched as it is spelled, and what follows it are digits.  Digits of one value are
case variants of each other, and the only thing that could still tell two spellings apart is a
sigma at the end of the marker, which looks at the digit behind it and sees the same.

* `Hex.value?_map_of_decode`: bytes determine the values of the digits that they were read from.
* `AddressFormat.nameKey_eq_of_decode`: spellings of one address have one key.
-/

namespace PublicFunds

namespace Hex

/-- A digit is an ASCII character. -/
theorem lt_of_value? : ∀ m < 256, ∀ n < 16, value? (UInt8.ofNat m) = some n → m < 128 := by
  decide +kernel

/-- The letters among the digits are cased. -/
theorem isCased_of_value? : ∀ m < 128, ∀ n < 16, value? (UInt8.ofNat m) = some n →
    Text.isCased (Char.ofNat m) = decide (10 ≤ n) := by
  decide +kernel

/-- No digit is passed over when a sigma looks at its neighbours. -/
theorem isCaseIgnorable_of_value? : ∀ m < 128, ∀ n < 16, value? (UInt8.ofNat m) = some n →
    Text.isCaseIgnorable (Char.ofNat m) = false := by
  decide +kernel

/-- Lowercasing a digit gives the digit that is written for its value. -/
theorem lowerChar_of_value? : ∀ m < 128, ∀ n < 16, value? (UInt8.ofNat m) = some n →
    Text.lowerChar (Char.ofNat m) = digit n := by
  decide +kernel

theorem ne_of_lt {c d : Char} {m : Nat} (h : c.toNat < m) (hd : m ≤ d.toNat) : c ≠ d := by
  rintro rfl
  omega

/-- Digits of one value are case variants. -/
theorem caseVariant_of_value? {c d : Char} {n : Nat} (hc : c.toNat < 128) (hd : d.toNat < 128)
    (vc : value? (UInt8.ofNat c.toNat) = some n) (vd : value? (UInt8.ofNat d.toNat) = some n) :
    Text.CaseVariant c d := by
  have hn : n < 16 := value?_lt vc
  have cased_c := isCased_of_value? _ hc n hn vc
  have cased_d := isCased_of_value? _ hd n hn vd
  have skip_c := isCaseIgnorable_of_value? _ hc n hn vc
  have skip_d := isCaseIgnorable_of_value? _ hd n hn vd
  have lower_c := lowerChar_of_value? _ hc n hn vc
  have lower_d := lowerChar_of_value? _ hd n hn vd
  rw [Char.ofNat_toNat] at cased_c cased_d skip_c skip_d lower_c lower_d
  refine ⟨?_, ?_, ?_, ?_, ?_⟩
  · rw [cased_c, cased_d]
  · rw [skip_c, skip_d]
  · rw [lower_c, lower_d]
  · exact ⟨fun h => absurd h (ne_of_lt hc (by decide)), fun h => absurd h (ne_of_lt hd (by decide))⟩
  · exact ⟨fun h => absurd h (ne_of_lt hc (by decide)), fun h => absurd h (ne_of_lt hd (by decide))⟩

/-- The two halves of a byte, as values of digits. -/
def halves (bs : Bytes) : List (Option Nat) :=
  bs.flatMap fun b => [some (b.toNat / 16), some (b.toNat % 16)]

/-- Bytes determine the values of the digits that they were read from. -/
theorem value?_map_of_decodePairs {position : Nat} {text raw : Bytes}
    (h : decodePairs position text = .ok raw) : text.map value? = halves raw := by
  fun_induction decodePairs position text generalizing raw with
  | case1 position =>
    cases h
    rfl
  | case2 position b => cases h
  | case3 position high low rest hhigh => cases h
  | case4 position high low rest hhigh hlow => cases h
  | case5 position high low rest a b vlow vhigh fault hrest => cases h
  | case6 position high low rest a b vlow vhigh bs hrest ih =>
    cases h
    have ha : a < 16 := value?_lt vhigh
    have hb : b < 16 := value?_lt vlow
    have byte : (UInt8.ofNat (16 * a + b)).toNat = 16 * a + b := by
      rw [UInt8.toNat_ofNat']
      exact Nat.mod_eq_of_lt (by omega)
    have quotient : (16 * a + b) / 16 = a := by omega
    have remainder : (16 * a + b) % 16 = b := by omega
    rw [List.map_cons, List.map_cons, vhigh, vlow, ih hrest, halves, halves, List.flatMap_cons,
      byte, quotient, remainder]
    rfl

theorem value?_map_of_decode {text raw : Bytes} (h : decode text = .ok raw) :
    text.map value? = halves raw := by
  unfold decode at h
  split at h
  · exact value?_map_of_decodePairs h
  · cases h

/-- Every value of a half is there. -/
theorem isSome_of_mem_halves {raw : Bytes} {v : Option Nat} (h : v ∈ halves raw) :
    v.isSome = true := by
  obtain ⟨b, -, hb⟩ := List.mem_flatMap.1 h
  rcases List.mem_pair.1 hb with rfl | rfl
  · rfl
  · rfl

end Hex

namespace Utf8

/-- The first byte of a longer character is no ASCII character. -/
theorem exists_large_of_not_ascii {c : Char} (h : ¬c.toNat < 128) :
    ∃ first rest, String.utf8EncodeChar c = first :: rest ∧ 128 ≤ first.toNat := by
  have large : ¬c.val.toNat ≤ 0x7f := fun hc => h (Nat.lt_succ_of_le hc)
  rw [String.utf8EncodeChar, if_neg large]
  split
  · exact ⟨_, _, rfl, by rw [UInt8.toNat_ofNat']; omega⟩
  · split
    · exact ⟨_, _, rfl, by rw [UInt8.toNat_ofNat']; omega⟩
    · exact ⟨_, _, rfl, by rw [UInt8.toNat_ofNat']; omega⟩

/-- An ASCII character is one byte long. -/
theorem utf8EncodeChar_of_lt {c : Char} (h : c.toNat < 128) :
    String.utf8EncodeChar c = [UInt8.ofNat c.toNat] := by
  have small : c.val.toNat ≤ 0x7f := Nat.le_of_lt_succ h
  rw [String.utf8EncodeChar, if_pos small]
  rfl

/-- A character whose bytes are all digits is one byte long. -/
theorem utf8EncodeChar_of_isSome {c : Char}
    (h : ∀ b ∈ String.utf8EncodeChar c, (Hex.value? b).isSome = true) :
    c.toNat < 128 ∧ String.utf8EncodeChar c = [UInt8.ofNat c.toNat] := by
  have ascii : ∀ b ∈ String.utf8EncodeChar c, b.toNat < 128 := by
    intro b hb
    obtain ⟨n, hn⟩ := Option.isSome_iff_exists.1 (h b hb)
    refine Hex.lt_of_value? b.toNat b.toNat_lt n (Hex.value?_lt hn) ?_
    rwa [UInt8.ofNat_toNat]
  by_cases hc : c.toNat < 128
  · exact ⟨hc, utf8EncodeChar_of_lt hc⟩
  · -- the first byte of a longer character is no ASCII character
    obtain ⟨first, rest, hfirst, hlarge⟩ := exists_large_of_not_ascii hc
    have hmem : first ∈ String.utf8EncodeChar c := by
      rw [hfirst]
      exact List.mem_cons_self ..
    exact absurd (ascii first hmem) (by omega)

/-- A text whose bytes are all digits is one byte a character. -/
theorem encode_of_isSome {cs : List Char} (h : ∀ b ∈ encode cs, (Hex.value? b).isSome = true) :
    (∀ c ∈ cs, c.toNat < 128) ∧ encode cs = cs.map fun c => UInt8.ofNat c.toNat := by
  induction cs with
  | nil => exact ⟨fun c hc => absurd hc List.not_mem_nil, rfl⟩
  | cons c cs ih =>
    rw [encode_cons] at h ⊢
    obtain ⟨hc, heq⟩ := utf8EncodeChar_of_isSome fun b hb => h b (List.mem_append_left _ hb)
    obtain ⟨hcs, heqs⟩ := ih fun b hb => h b (List.mem_append_right _ hb)
    refine ⟨?_, ?_⟩
    · rintro d hd
      rcases List.mem_cons.1 hd with rfl | hd
      · exact hc
      · exact hcs d hd
    · rw [heq, heqs, List.map_cons, List.singleton_append]

end Utf8

namespace AddressFormat

/-- What follows a beginning, put behind it again. -/
theorem append_of_after? {α : Type} [DecidableEq α] {lead l rest : List α}
    (h : after? lead l = some rest) : lead ++ rest = l := by
  induction lead generalizing l with
  | nil => exact Option.some.inj h.symm
  | cons a lead ih =>
    cases l with
    | nil => cases h
    | cons b l =>
      rw [after?] at h
      split at h
      · next hab => rw [List.cons_append, ih h, hab]
      · cases h

/-- An address is its marker and digits, up to the blanks around it. -/
theorem exists_payload_of_decode {format : AddressFormat} {address : String} {raw : Bytes}
    (h : format.decode address = .ok raw) :
    ∃ payload, Text.trimChars address.toList = format.marker.toList ++ payload ∧
      Hex.decode (Utf8.encode payload) = .ok raw := by
  unfold decode at h
  simp only at h
  split at h
  · cases h
  · split at h
    · cases h
    · next payload hafter =>
      split at h
      · cases h
      · next bytes hhex =>
        split at h
        · cases h
          exact ⟨payload, (append_of_after? hafter).symm, hhex⟩
        · cases h

/-- Digits that name the same bytes are case variants, one by one. -/
theorem forall₂_caseVariant_of_decode {p q : List Char} {raw : Bytes}
    (hp : Hex.decode (Utf8.encode p) = .ok raw) (hq : Hex.decode (Utf8.encode q) = .ok raw) :
    List.Forall₂ Text.CaseVariant p q := by
  have vp := Hex.value?_map_of_decode hp
  have vq := Hex.value?_map_of_decode hq
  obtain ⟨ascii_p, bytes_p⟩ := Utf8.encode_of_isSome fun b hb =>
    Hex.isSome_of_mem_halves (vp ▸ List.mem_map_of_mem hb)
  obtain ⟨ascii_q, bytes_q⟩ := Utf8.encode_of_isSome fun b hb =>
    Hex.isSome_of_mem_halves (vq ▸ List.mem_map_of_mem hb)
  have same : (p.map fun c => Hex.value? (UInt8.ofNat c.toNat)) =
      q.map fun c => Hex.value? (UInt8.ofNat c.toNat) := by
    rw [bytes_p, List.map_map] at vp
    rw [bytes_q, List.map_map] at vq
    exact vp.trans vq.symm
  have some_p : ∀ c ∈ p, (Hex.value? (UInt8.ofNat c.toNat)).isSome = true := by
    intro c hc
    have half : Hex.value? (UInt8.ofNat c.toNat) ∈ Hex.halves raw := by
      rw [← vp, bytes_p, List.map_map]
      exact List.mem_map_of_mem hc
    exact Hex.isSome_of_mem_halves half
  clear vp vq bytes_p bytes_q hp hq
  induction p generalizing q with
  | nil =>
    cases q with
    | nil => exact .nil
    | cons d q => cases same
  | cons c p ih =>
    cases q with
    | nil => cases same
    | cons d q =>
      rw [List.map_cons, List.map_cons, List.cons.injEq] at same
      obtain ⟨n, hn⟩ := Option.isSome_iff_exists.1 (some_p c (List.mem_cons_self ..))
      refine .cons ?_ ?_
      · exact Hex.caseVariant_of_value? (ascii_p c (List.mem_cons_self ..))
          (ascii_q d (List.mem_cons_self ..)) hn (same.1 ▸ hn)
      · exact ih (fun a ha => ascii_p a (List.mem_cons_of_mem _ ha))
          (fun a ha => ascii_q a (List.mem_cons_of_mem _ ha)) same.2
          fun a ha => some_p a (List.mem_cons_of_mem _ ha)

/-- **Spellings of one address have one key.**  So approvals whose signers have different keys come
from different officers. -/
theorem nameKey_eq_of_decode {format : AddressFormat} {s t : String} {raw : Bytes}
    (hs : format.decode s = .ok raw) (ht : format.decode t = .ok raw) :
    NameKey.of s = NameKey.of t := by
  obtain ⟨p, trim_s, hp⟩ := exists_payload_of_decode hs
  obtain ⟨q, trim_t, hq⟩ := exists_payload_of_decode ht
  have digits := forall₂_caseVariant_of_decode hp hq
  have whole : List.Forall₂ Text.CaseVariant (format.marker.toList ++ p)
      (format.marker.toList ++ q) :=
    List.rel_append (Text.forall₂_caseVariant_refl _) digits
  have lower := Text.lowerChars_congr whole
  have key : ∀ name : String,
      NameKey.of name = ⟨String.ofList (Text.lowerChars (Text.trimChars name.toList))⟩ := by
    intro name
    rw [NameKey.of, Text.lower, Text.toList_trim]
  rw [key, key, trim_s, trim_t, lower]

end AddressFormat

end PublicFunds
