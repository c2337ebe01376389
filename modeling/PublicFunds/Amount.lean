import PublicFunds.Bytes.Hex

/-!
# Amounts of money

An amount counts the smallest units of a currency and lies below 2^256.  Adding two amounts can
leave that range, so addition may have no answer, and no sum ever wraps around.

Amounts are stored and exchanged as hexadecimal text.  One spelling is written: `0x` and as few
lowercase digits as there can be.  More are read: the mark may be missing, digits may be in either
case, and zeros may stand in front as long as there are at most sixty-four digits.

* `Amount.add?`: the sum, if there is one.
* `Amount.text`, `Amount.read`: the two directions.
-/

namespace PublicFunds

/-- The first count of units that is no amount: a one and sixty-four zeros, in base 16. -/
abbrev Amount.size : Nat :=
  0x10000000000000000000000000000000000000000000000000000000000000000

/-- A number of currency units below 2^256. -/
structure Amount where
  /-- The count of units. -/
  toNat : Nat
  /-- The count is in range. -/
  toNat_lt : toNat < Amount.size
  deriving DecidableEq, Repr

namespace Amount

theorem ext {a b : Amount} (h : a.toNat = b.toNat) : a = b := by
  cases a; cases b; cases h; rfl

/-- No money. -/
def zero : Amount := ⟨0, by decide⟩

instance : Inhabited Amount := ⟨zero⟩

@[simp] theorem toNat_zero : zero.toNat = 0 := rfl

/-- The amount of a count that is in range. -/
def ofNat? (n : Nat) : Option Amount := if h : n < size then some ⟨n, h⟩ else none

@[simp] theorem ofNat?_toNat (a : Amount) : ofNat? a.toNat = some a := by
  rw [ofNat?, dif_pos a.toNat_lt]

theorem ofNat?_eq_some_iff {n : Nat} {a : Amount} : ofNat? n = some a ↔ n = a.toNat := by
  unfold ofNat?
  split
  · next h => exact ⟨fun e => by cases e; rfl, fun e => by cases e; rfl⟩
  · next h => exact ⟨fun e => by contradiction, fun e => absurd (e ▸ a.toNat_lt) h⟩

theorem ofNat?_eq_none_iff {n : Nat} : ofNat? n = none ↔ size ≤ n := by
  unfold ofNat?
  split <;> simp <;> omega

/-- The sum of two amounts, if it is an amount. -/
def add? (a b : Amount) : Option Amount := ofNat? (a.toNat + b.toNat)

theorem add?_eq_some_iff {a b c : Amount} : add? a b = some c ↔ a.toNat + b.toNat = c.toNat :=
  ofNat?_eq_some_iff

instance : LE Amount := ⟨fun a b => a.toNat ≤ b.toNat⟩

instance (a b : Amount) : Decidable (a ≤ b) := inferInstanceAs (Decidable (a.toNat ≤ b.toNat))

/-- The decimal text of an amount, for messages. -/
def decimal (a : Amount) : String := toString a.toNat

/-- What keeps a text from being an amount. -/
inductive Fault where
  /-- There is no digit, or there are more than sixty-four. -/
  | badLength (digits : Nat)
  /-- A byte of the text is no digit. -/
  | badDigit (byte : UInt8) (position : Nat)
  deriving DecidableEq, Repr

/-- The text of an amount. -/
def text (a : Amount) : List Char := '0' :: 'x' :: Hex.number a.toNat

/-- Reads the digits of an amount; `position` is the place of the first one in the whole text. -/
def readDigits (position : Nat) (digits : Bytes) : Except Fault Amount :=
  if digits.length = 0 ∨ 64 < digits.length then .error (.badLength digits.length)
  else
    match Hex.readNumber position 0 digits with
    | .error (.badDigit b i) => .error (.badDigit b i)
    | .error .oddLength => .error (.badLength digits.length)
    | .ok n =>
      match ofNat? n with
      | some a => .ok a
      | none => .error (.badLength digits.length)

/-- Reads the bytes of a text, with or without the mark in front. -/
def read : Bytes → Except Fault Amount
  | 0x30 :: 0x78 :: digits => readDigits 2 digits
  | digits => readDigits 0 digits

end Amount

end PublicFunds
