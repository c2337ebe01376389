import PublicFunds.Approval.Quorum
import PublicFunds.Delegation.Basic
import PublicFunds.Proofs.Address.Identity

/-!
# Comparing names is comparing addresses

Spellings of one address have one key.  The other direction is not for free: lowercasing may merge
characters and may change how many there are, and what it does to the marker depends on what
follows.  But whatever becomes of the marker, the digits behind it become the digits in which their
bytes would be written, as many as before.  So a key ends in the written digits of an address, and
since all addresses of a format have the same number of digits, keys that are the same end in the
same digits.

Hence everything that is compared by key is compared by address, as far as it is an address:
signers, the subject of a scorecard with a signer, and those who delegate.

* `Hex.Spells.lowerAfter`: digits become the digits in which their bytes are written.
* `AddressFormat.nameKey_eq_iff`: names that are addresses have one key if they are one address.
* `AddressFormat.decode_of_spelling`: the case of digits and blanks do not count for an address.
* `AddressFormat.Identifies`, `AddressFormat.identifies`: what that comes to.
-/

namespace PublicFunds

namespace Hex

/-! ## Digits and what they are written as -/

theorem length_encode (raw : Bytes) : (encode raw).length = 2 * raw.length := by
  induction raw with
  | nil => rfl
  | cons b raw ih =>
    rw [encode_cons, List.length_cons, List.length_cons, ih, List.length_cons]
    omega

/-- A digit tells its value. -/
theorem digit_inj : ∀ m < 16, ∀ n < 16, digit m = digit n → m = n := by decide +kernel

/-- **Bytes that are written alike are the same.** -/
theorem encode_inj {raw raw' : Bytes} (h : encode raw = encode raw') : raw = raw' := by
  induction raw generalizing raw' with
  | nil =>
    cases raw' with
    | nil => rfl
    | cons b raw' => cases h
  | cons b raw ih =>
    cases raw' with
    | nil => cases h
    | cons b' raw' =>
      rw [encode_cons, encode_cons, List.cons.injEq, List.cons.injEq] at h
      obtain ⟨high, low, rest⟩ := h
      have bound := b.toNat_lt
      have bound' := b'.toNat_lt
      have high := digit_inj _ (by omega) _ (by omega) high
      have low := digit_inj _ (by omega) _ (by omega) low
      have same : b.toNat = b'.toNat := by omega
      rw [ih rest, UInt8.toNat_inj.1 same]

/-- A character is a digit with some value, of either case. -/
structure IsDigit (c : Char) (n : Nat) : Prop where
  ascii : c.toNat < 128
  value : value? (UInt8.ofNat c.toNat) = some n

/-- Some characters are the digits of some bytes, two a byte. -/
inductive Spells : List Char → Bytes → Prop where
  | nil : Spells [] []
  | cons {c d : Char} {p : List Char} {b : UInt8} {raw : Bytes} (high : IsDigit c (b.toNat / 16))
      (low : IsDigit d (b.toNat % 16)) (rest : Spells p raw) : Spells (c :: d :: p) (b :: raw)

/-- Characters whose values are those of the halves of some bytes are their digits. -/
theorem spells_of_map {p : List Char} {raw : Bytes} (ascii : ∀ c ∈ p, c.toNat < 128)
    (same : (p.map fun c => value? (UInt8.ofNat c.toNat)) = halves raw) : Spells p raw := by
  induction raw generalizing p with
  | nil =>
    rw [List.map_eq_nil_iff.1 same]
    exact .nil
  | cons b raw ih =>
    obtain ⟨c, p, rfl, high, same⟩ := List.map_eq_cons_iff.1 same
    obtain ⟨d, p, rfl, low, same⟩ := List.map_eq_cons_iff.1 same
    refine .cons ⟨ascii c (by simp), high⟩ ⟨ascii d (by simp), low⟩ (ih ?_ same)
    exact fun e he => ascii e (List.mem_cons_of_mem _ (List.mem_cons_of_mem _ he))

/-- The digits of some bytes, as bytes of a text. -/
theorem Spells.decodePairs {p : List Char} {raw : Bytes} (h : Spells p raw) (position : Nat) :
    (Utf8.encode p).length % 2 = 0 ∧ Hex.decodePairs position (Utf8.encode p) = .ok raw := by
  induction h generalizing position with
  | nil => exact ⟨rfl, rfl⟩
  | @cons c d p b raw high low rest ih =>
    obtain ⟨even, read⟩ := ih (position + 2)
    rw [Utf8.encode_cons, Utf8.encode_cons, Utf8.utf8EncodeChar_of_lt high.ascii,
      Utf8.utf8EncodeChar_of_lt low.ascii, List.singleton_append, List.singleton_append]
    have byte : UInt8.ofNat (16 * (b.toNat / 16) + b.toNat % 16) = b := by
      rw [Nat.div_add_mod, UInt8.ofNat_toNat]
    refine ⟨?_, ?_⟩
    · rw [List.length_cons, List.length_cons]
      omega
    · simp only [Hex.decodePairs, high.value, low.value, read, byte]

/-- **Some bytes are read exactly from their digits.** -/
theorem decode_eq_ok_iff {p : List Char} {raw : Bytes} :
    decode (Utf8.encode p) = .ok raw ↔ Spells p raw := by
  constructor
  · intro h
    have values := value?_map_of_decode h
    obtain ⟨ascii, bytes⟩ := Utf8.encode_of_isSome fun b hb =>
      isSome_of_mem_halves (values ▸ List.mem_map_of_mem hb)
    rw [bytes, List.map_map] at values
    exact spells_of_map ascii values
  · intro h
    obtain ⟨even, read⟩ := h.decodePairs 0
    rw [decode, if_pos even, read]

/-- A digit becomes the one that is written for its value, whatever stands around it. -/
theorem IsDigit.lowerAfter {c : Char} {n : Nat} (h : IsDigit c n) (before rest : List Char) :
    Text.lowerAfter before (c :: rest) = digit n :: Text.lowerAfter (c :: before) rest := by
  have lower := lowerChar_of_value? _ h.ascii n (value?_lt h.value) h.value
  rw [Char.ofNat_toNat] at lower
  rw [Text.lowerAfter_cons, Text.lowerAt, if_neg (ne_of_lt h.ascii (by decide)),
    if_neg (ne_of_lt h.ascii (by decide)), lower, List.singleton_append]

/-- **Lowercase digits are the written ones**, whatever stands before them. -/
theorem Spells.lowerAfter {p : List Char} {raw : Bytes} (h : Spells p raw) (before : List Char) :
    Text.lowerAfter before p = encode raw := by
  induction h generalizing before with
  | nil => rfl
  | cons high low rest ih => rw [high.lowerAfter, low.lowerAfter, ih, encode_cons]

/-- The case of a digit does not matter for its value. -/
theorem value?_toLower : ∀ m < 128,
    value? (UInt8.ofNat (Char.ofNat m).toLower.toNat) = value? (UInt8.ofNat m) := by
  decide +kernel

/-- What becomes an ASCII character is one. -/
theorem lt_of_toLower {c : Char} (h : c.toLower.toNat < 128) : c.toNat < 128 := by
  unfold Char.toLower at h
  split at h
  · next letter =>
    have small : c.toNat ≤ 'Z'.toNat := letter.2
    exact Nat.lt_of_le_of_lt small (by decide)
  · exact h

/-- A character that differs from a digit in its case only is a digit with the same value. -/
theorem IsDigit.of_toLower {c d : Char} {n : Nat} (h : IsDigit c n) (same : c.toLower = d.toLower) :
    IsDigit d n := by
  have lower : ∀ m < 128, (Char.ofNat m).toLower.toNat < 128 := by decide +kernel
  have small := lower _ h.ascii
  rw [Char.ofNat_toNat, same] at small
  have ascii := lt_of_toLower small
  have value_c := value?_toLower _ h.ascii
  have value_d := value?_toLower _ ascii
  rw [Char.ofNat_toNat] at value_c value_d
  refine ⟨ascii, ?_⟩
  rw [← value_d, ← same, value_c, h.value]

/-- The case of digits does not matter for what they spell. -/
theorem Spells.of_toLower {p q : List Char} {raw : Bytes} (h : Spells p raw)
    (same : p.map Char.toLower = q.map Char.toLower) : Spells q raw := by
  induction h generalizing q with
  | nil =>
    rw [List.map_eq_nil_iff.1 same.symm]
    exact .nil
  | cons high low rest ih =>
    obtain ⟨c, q, rfl, same_c, same⟩ := List.map_eq_cons_iff.1 same.symm
    obtain ⟨d, q, rfl, same_d, same⟩ := List.map_eq_cons_iff.1 same
    exact .cons (high.of_toLower same_c.symm) (low.of_toLower same_d.symm) (ih same.symm)

end Hex

namespace AddressFormat

/-! ## Names that are addresses -/

theorem after?_append {α : Type} [DecidableEq α] (lead rest : List α) :
    after? lead (lead ++ rest) = some rest := by
  induction lead with
  | nil => rfl
  | cons a lead ih => rw [List.cons_append, after?, if_pos rfl, ih]

/-- **What an address is**: something other than blanks, which is the marker and the digits of as
many bytes as there have to be. -/
theorem decode_eq_ok_iff {format : AddressFormat} {address : String} {raw : Bytes} :
    format.decode address = .ok raw ↔ raw.length = format.byteLength ∧
      Text.trimChars address.toList ≠ [] ∧
      ∃ p, Text.trimChars address.toList = format.marker.toList ++ p ∧ Hex.Spells p raw := by
  constructor
  · intro h
    obtain ⟨p, trimmed, digits⟩ := exists_payload_of_decode h
    unfold decode at h
    simp only at h
    split at h
    · cases h
    · next filled =>
      rw [trimmed, after?_append] at h
      simp only [digits] at h
      split at h
      · next length => exact ⟨length, filled, p, trimmed, Hex.decode_eq_ok_iff.1 digits⟩
      · cases h
  · rintro ⟨length, filled, p, trimmed, digits⟩
    have read := Hex.decode_eq_ok_iff.2 digits
    rw [trimmed] at filled
    unfold decode
    simp only [trimmed, if_neg filled, after?_append, read, length, if_true]

/-- The key of an address ends in the digits in which it is written. -/
theorem exists_toList_key {format : AddressFormat} {address : String} {raw : Bytes}
    (h : format.decode address = .ok raw) :
    ∃ start, (NameKey.of address).text.toList = start ++ Hex.encode raw := by
  obtain ⟨-, -, p, trimmed, digits⟩ := decode_eq_ok_iff.1 h
  obtain ⟨start, lower⟩ := Text.lowerAfter_append [] format.marker.toList p
  exact ⟨start, by rw [NameKey.toList_text_of, trimmed, Text.lowerChars, lower, digits.lowerAfter]⟩

/-- **Names that are addresses have one key exactly if they are one address.** -/
theorem nameKey_eq_iff {format : AddressFormat} {s t : String} {raw raw' : Bytes}
    (hs : format.decode s = .ok raw) (ht : format.decode t = .ok raw') :
    NameKey.of s = NameKey.of t ↔ raw = raw' := by
  constructor
  · intro same
    obtain ⟨start, key⟩ := exists_toList_key hs
    obtain ⟨start', key'⟩ := exists_toList_key ht
    rw [same, key'] at key
    have lengths : (Hex.encode raw').length = (Hex.encode raw).length := by
      rw [Hex.length_encode, Hex.length_encode, (decode_eq_ok_iff.1 hs).1,
        (decode_eq_ok_iff.1 ht).1]
    exact (Hex.encode_inj (List.append_inj' key lengths).2).symm
  · rintro rfl
    exact nameKey_eq_of_decode hs ht

/-- **Blanks and the case of digits do not count.**  What is an address stays the same address if
other blanks are put around it and its digits are written in another case. -/
theorem decode_of_spelling {format : AddressFormat} {s t : String} {raw : Bytes}
    {p q : List Char} (hs : format.decode s = .ok raw)
    (trim_s : Text.trimChars s.toList = format.marker.toList ++ p)
    (trim_t : Text.trimChars t.toList = format.marker.toList ++ q)
    (same : p.map Char.toLower = q.map Char.toLower) : format.decode t = .ok raw := by
  obtain ⟨length, filled, p', trimmed, digits⟩ := decode_eq_ok_iff.1 hs
  obtain rfl : p = p' := List.append_cancel_left (trim_s.symm.trans trimmed)
  refine decode_eq_ok_iff.2 ⟨length, fun empty => ?_, q, trim_t, digits.of_toLower same⟩
  -- without a marker and digits there was no address in the first place
  obtain ⟨marker, none⟩ := List.append_eq_nil_iff.1 (trim_t.symm.trans empty)
  rw [none, List.map_nil, List.map_eq_nil_iff] at same
  exact filled (by rw [trim_s, marker, same, List.append_nil])

/-- **What it comes to that names are compared by their keys.**  Names that are addresses of a format
are compared as addresses wherever names are compared. -/
structure Identifies (format : AddressFormat) : Prop where
  /-- Names have one key exactly if they are one address. -/
  keys : ∀ s t raw raw', format.decode s = .ok raw → format.decode t = .ok raw' →
    (NameKey.of s = NameKey.of t ↔ raw = raw')
  /-- Blanks around a name and the case of its digits do not matter for its address. -/
  spellings : ∀ s t raw p q, format.decode s = .ok raw →
    Text.trimChars s.toList = format.marker.toList ++ p →
    Text.trimChars t.toList = format.marker.toList ++ q →
    p.map Char.toLower = q.map Char.toLower → format.decode t = .ok raw
  /-- Approvals conflict exactly if they have one role or the address of one signer. -/
  signers : ∀ (a b : Approval) raw raw', format.decode a.signer = .ok raw →
    format.decode b.signer = .ok raw' →
    (a.conflictsWith b = true ↔ a.roleKey = b.roleKey ∨ raw = raw')
  /-- The scorecard behind an approval has to be about the address of the signer, and then it is
  only the score that counts. -/
  subjects : ∀ (quorum : Quorum) (scores : ScoreSource) (a : Approval) (card : Scorecard) raw raw',
    scores a.scorecard = .ok (some card) → format.decode card.subject = .ok raw →
    format.decode a.signer = .ok raw' →
    quorum.checkBacking scores a =
      if raw = raw' then
        Check.require (quorum.minScore ≤ card.score)
          (.scoreTooLow card.id card.score quorum.minScore)
      else .error (.scoreMismatch card.id card.subject a.signer)
  /-- Delegations take the place of each other exactly if they are of the address of one officer and
  within one scope. -/
  delegators : ∀ (d e : Delegation) raw raw', format.decode d.delegator = .ok raw →
    format.decode e.delegator = .ok raw' →
    (Paired.pair d = Paired.pair e ↔ raw = raw' ∧ NameKey.of d.scope = NameKey.of e.scope)

/-- **Every format identifies those whom it names.** -/
theorem identifies (format : AddressFormat) : format.Identifies where
  keys _ _ _ _ := nameKey_eq_iff
  spellings _ _ _ _ _ := decode_of_spelling
  signers a b raw raw' ha hb := by
    rw [Approval.conflictsWith, Bool.or_eq_true, beq_iff_eq, beq_iff_eq, Approval.signerKey,
      Approval.signerKey, nameKey_eq_iff ha hb]
  subjects quorum scores a card raw raw' found subject signer := by
    have same := nameKey_eq_iff subject signer
    unfold Quorum.checkBacking
    simp only [found, Approval.signerKey]
    by_cases alike : raw = raw'
    · rw [if_pos alike, beq_iff_eq.2 (same.2 alike)]
      exact Check.all_singleton _
    · rw [if_neg alike, beq_eq_false_iff_ne.2 (mt same.1 alike)]
      rfl
  delegators d e raw raw' hd he := by
    show PairKey.of d.delegator d.scope = PairKey.of e.delegator e.scope ↔ _
    rw [PairKey.of, PairKey.of, PairKey.mk.injEq, nameKey_eq_iff hd he]

/-- Addresses of two bytes. -/
def twoBytes : AddressFormat := ⟨"0x", 2⟩

/-- One officer, spelled in two ways, and another.  The first two have one key and conflict as
signers, a scorecard of the one backs the other, and their delegations take the place of each other;
the third has another key. -/
theorem identifies_spelledTwice :
    (twoBytes.decode " 0xAb0C " = .ok [0xab, 0x0c] ∧ twoBytes.decode "0xaB0c" = .ok [0xab, 0x0c] ∧
      twoBytes.decode "0xab0d" = .ok [0xab, 0x0d]) ∧
    NameKey.of " 0xAb0C " = NameKey.of "0xaB0c" ∧ NameKey.of "0xaB0c" ≠ NameKey.of "0xab0d" ∧
    Approval.conflictsWith ⟨" 0xAb0C ", "audit", 1, "s"⟩ ⟨"0xaB0c", "budget", 2, "t"⟩ = true ∧
    Quorum.checkBacking ⟨2, 80⟩ (fun _ => .ok (some (.rated "0xaB0c" "honesty" 90)))
      ⟨" 0xAb0C ", "audit", 1, "s"⟩ = .ok () ∧
    Paired.pair (Delegation.between " 0xAb0C " "0xab0d" "roads") =
      Paired.pair (Delegation.between "0xaB0c" "0x0000" " Roads") := by
  have first : twoBytes.decode " 0xAb0C " = .ok [0xab, 0x0c] := by decide +kernel
  have second : twoBytes.decode "0xaB0c" = .ok [0xab, 0x0c] :=
    (identifies twoBytes).spellings " 0xAb0C " "0xaB0c" _ ['A', 'b', '0', 'C'] ['a', 'B', '0', 'c']
      first (by decide +kernel) (by decide +kernel) (by decide)
  have third : twoBytes.decode "0xab0d" = .ok [0xab, 0x0d] := by decide +kernel
  have differ : ([0xab, 0x0c] : Bytes) ≠ [0xab, 0x0d] := by decide
  refine ⟨⟨first, second, third⟩, ((identifies twoBytes).keys _ _ _ _ first second).2 rfl,
    mt ((identifies twoBytes).keys _ _ _ _ second third).1 differ,
    ((identifies twoBytes).signers ⟨" 0xAb0C ", "audit", 1, "s"⟩ ⟨"0xaB0c", "budget", 2, "t"⟩ _ _
      first second).2 (.inr rfl), ?_, ?_⟩
  · exact (identifies twoBytes).subjects ⟨2, 80⟩ _ ⟨" 0xAb0C ", "audit", 1, "s"⟩
      (.rated "0xaB0c" "honesty" 90) _ _ rfl second first
  · exact ((identifies twoBytes).delegators (.between " 0xAb0C " "0xab0d" "roads")
      (.between "0xaB0c" "0x0000" " Roads") _ _ first second).2 ⟨rfl, by decide +kernel⟩

end AddressFormat

end PublicFunds
