import PublicFunds.Bytes.Basic

/-!
# Hexadecimal text

Two digits a byte, the high half first.  Writing uses lowercase digits; reading takes either case,
so that a text that was typed by hand names the same bytes.

* `Hex.encode`: the digits of a byte string.
* `Hex.number`: a number in as few digits as there can be; `Hex.readNumber` is the other direction.
* `Hex.decode`: the bytes of a digit string, or the first fault in it.  The length is judged
  before any digit, and positions count bytes of the text.
-/

namespace PublicFunds

namespace Hex

/-- The lowercase digit of a value below sixteen. -/
def digit (n : Nat) : Char :=
  if n < 10 then Char.ofNat (48 + n) else Char.ofNat (87 + n)

/-- The value of a digit of either case. -/
def value? (b : UInt8) : Option Nat :=
  let n := b.toNat
  if 48 ≤ n ∧ n ≤ 57 then some (n - 48)
  else if 97 ≤ n ∧ n ≤ 102 then some (n - 87)
  else if 65 ≤ n ∧ n ≤ 70 then some (n - 55)
  else none

theorem value?_lt {b : UInt8} {n : Nat} (h : value? b = some n) : n < 16 := by
  unfold value? at h
  simp only at h
  split at h
  · cases h; omega
  · split at h
    · cases h; omega
    · split at h
      · cases h; omega
      · contradiction

/-- The text of a byte string. -/
def encode (bs : Bytes) : List Char :=
  bs.flatMap fun b => [digit (b.toNat / 16), digit (b.toNat % 16)]

@[simp] theorem encode_nil : encode [] = [] := rfl

@[simp] theorem encode_cons (b : UInt8) (bs : Bytes) :
    encode (b :: bs) = digit (b.toNat / 16) :: digit (b.toNat % 16) :: encode bs := rfl

/-- What keeps a text from being hexadecimal. -/
inductive Fault where
  /-- The text does not split into pairs. -/
  | oddLength
  /-- A byte of the text is no digit. -/
  | badDigit (byte : UInt8) (position : Nat)
  deriving DecidableEq, Repr

/-- Reads pairs of digits; `position` is the place of the first one in the whole text. -/
def decodePairs (position : Nat) : Bytes → Except Fault Bytes
  | [] => .ok []
  | [_] => .error .oddLength
  | high :: low :: rest =>
    match value? high, value? low with
    | none, _ => .error (.badDigit high position)
    | some _, none => .error (.badDigit low (position + 1))
    | some h, some l =>
      match decodePairs (position + 2) rest with
      | .error fault => .error fault
      | .ok bs => .ok (UInt8.ofNat (16 * h + l) :: bs)

/-- The bytes that a text of digits names. -/
def decode (text : Bytes) : Except Fault Bytes :=
  if text.length % 2 = 0 then decodePairs 0 text else .error .oddLength

/-! ## Numbers -/

/-- A number in as few lowercase digits as there can be. -/
def number (n : Nat) : List Char :=
  if n < 16 then [digit n] else number (n / 16) ++ [digit (n % 16)]

/-- The number that digits spell after the digits of `sofar`; `position` is the place of the
first one in the whole text. -/
def readNumber (position sofar : Nat) : Bytes → Except Fault Nat
  | [] => .ok sofar
  | b :: rest =>
    match value? b with
    | none => .error (.badDigit b position)
    | some d => readNumber (position + 1) (16 * sofar + d) rest

end Hex

end PublicFunds
