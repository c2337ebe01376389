import PublicFunds.Bytes.Basic

/-!
# UTF-8

A text is stored as the UTF-8 bytes of its characters.  Bytes that come from a file need not be
UTF-8, and the reader then says where the text breaks off: the place of the first byte of the
faulty sequence, and how many bytes of it could not be the start of a character.  A sequence that
is cut off by the end of the text has no such count, because more bytes might have completed it.

* `Utf8.encode`, `Utf8.decode`: the two directions.
-/

namespace PublicFunds

namespace Utf8

/-- The bytes of a text. -/
def encode (cs : List Char) : Bytes := cs.flatMap String.utf8EncodeChar

@[simp] theorem encode_nil : encode [] = [] := rfl

@[simp] theorem encode_cons (c : Char) (cs : List Char) :
    encode (c :: cs) = String.utf8EncodeChar c ++ encode cs := rfl

theorem encode_append (cs ds : List Char) : encode (cs ++ ds) = encode cs ++ encode ds := by
  simp [encode]

/-- Where and how a byte string stops being UTF-8. -/
structure Fault where
  /-- The place of the first byte of the faulty sequence. -/
  index : Nat
  /-- The bytes of the sequence that no character starts with; none if the text ends inside it. -/
  length : Option Nat
  deriving DecidableEq, Repr

/-- A byte that continues a character. -/
def isContinuation (b : UInt8) : Bool := 0x80 ≤ b.toNat && b.toNat ≤ 0xBF

/-- The second bytes that may follow the first byte of a longer character.  The narrower bounds
keep out overlong forms, surrogates and values past the last code point. -/
def allowsSecond (first second : UInt8) : Bool :=
  let f := first.toNat
  let s := second.toNat
  if f = 0xE0 then 0xA0 ≤ s && s ≤ 0xBF
  else if f = 0xED then 0x80 ≤ s && s ≤ 0x9F
  else if f = 0xF0 then 0x90 ≤ s && s ≤ 0xBF
  else if f = 0xF4 then 0x80 ≤ s && s ≤ 0x8F
  else 0x80 ≤ s && s ≤ 0xBF

/-- The low six bits of a continuation byte. -/
def low (b : UInt8) : Nat := b.toNat % 64

/-- Reads the characters of a byte string whose first byte has place `index`. -/
def decodeFrom (index : Nat) : Bytes → Except Fault (List Char)
  | [] => .ok []
  | b :: rest =>
    let n := b.toNat
    if n < 0x80 then
      (Char.ofNat n :: ·) <$> decodeFrom (index + 1) rest
    else if 0xC2 ≤ n ∧ n ≤ 0xDF then
      match rest with
      | [] => .error ⟨index, none⟩
      | c :: rest =>
        if isContinuation c then
          (Char.ofNat (n % 32 * 64 + low c) :: ·) <$> decodeFrom (index + 2) rest
        else .error ⟨index, some 1⟩
    else if 0xE0 ≤ n ∧ n ≤ 0xEF then
      match rest with
      | [] => .error ⟨index, none⟩
      | c :: rest =>
        if allowsSecond b c then
          match rest with
          | [] => .error ⟨index, none⟩
          | d :: rest =>
            if isContinuation d then
              (Char.ofNat (n % 16 * 4096 + low c * 64 + low d) :: ·) <$>
                decodeFrom (index + 3) rest
            else .error ⟨index, some 2⟩
        else .error ⟨index, some 1⟩
    else if 0xF0 ≤ n ∧ n ≤ 0xF4 then
      match rest with
      | [] => .error ⟨index, none⟩
      | c :: rest =>
        if allowsSecond b c then
          match rest with
          | [] => .error ⟨index, none⟩
          | d :: rest =>
            if isContinuation d then
              match rest with
              | [] => .error ⟨index, none⟩
              | e :: rest =>
                if isContinuation e then
                  (Char.ofNat (n % 8 * 262144 + low c * 4096 + low d * 64 + low e) :: ·) <$>
                    decodeFrom (index + 4) rest
                else .error ⟨index, some 3⟩
            else .error ⟨index, some 2⟩
        else .error ⟨index, some 1⟩
    else .error ⟨index, some 1⟩

/-- The characters that a byte string spells. -/
def decode (bs : Bytes) : Except Fault (List Char) := decodeFrom 0 bs

/-- The reader's account of a fault. -/
def Fault.message : Fault → String
  | ⟨index, some length⟩ => s!"invalid utf-8 sequence of {length} bytes from index {index}"
  | ⟨index, none⟩ => s!"incomplete utf-8 byte sequence from index {index}"

/-- The UTF-8 bytes of a string. -/
def bytes (s : String) : Bytes := encode s.toList

/-- The string that a byte string spells. -/
def text (bs : Bytes) : Except Fault String := String.ofList <$> decode bs

end Utf8

end PublicFunds
