import PublicFunds.Bytes.Basic

/-!
# Decimal text

Numbers in documents and in settings are decimal digits, the highest first.

* `Decimal.digits`: a number in as few digits as there can be.
* `Decimal.value?`: the number that digits spell, with `value?_digits` for the way back.
-/

namespace PublicFunds

namespace Decimal

/-- The digit of a value below ten. -/
def digit (n : Nat) : UInt8 := UInt8.ofNat (48 + n)

/-- The value of a digit. -/
def digitValue? (b : UInt8) : Option Nat :=
  if 48 ≤ b.toNat ∧ b.toNat ≤ 57 then some (b.toNat - 48) else none

theorem digitValue?_digit {n : Nat} (h : n < 10) : digitValue? (digit n) = some n := by
  have hn : (digit n).toNat = 48 + n := by
    rw [digit, UInt8.toNat_ofNat']
    exact Nat.mod_eq_of_lt (by omega)
  rw [digitValue?, hn, if_pos (by omega)]
  congr 1
  omega

/-- A number in as few digits as there can be. -/
def digits (n : Nat) : Bytes :=
  if n < 10 then [digit n] else digits (n / 10) ++ [digit (n % 10)]

/-- The number that digits spell after the digits of `sofar`. -/
def valueAfter? (sofar : Nat) : Bytes → Option Nat
  | [] => some sofar
  | b :: rest =>
    match digitValue? b with
    | none => none
    | some d => valueAfter? (10 * sofar + d) rest

/-- The number that digits spell; there has to be one. -/
def value? (bs : Bytes) : Option Nat := if bs = [] then none else valueAfter? 0 bs

theorem valueAfter?_append (sofar : Nat) (front rest : Bytes) :
    valueAfter? sofar (front ++ rest) = (valueAfter? sofar front).bind (valueAfter? · rest) := by
  induction front generalizing sofar with
  | nil => rfl
  | cons b front ih =>
    rw [List.cons_append, valueAfter?, valueAfter?]
    cases digitValue? b with
    | none => rfl
    | some d => exact ih _

theorem valueAfter?_digits (n : Nat) : valueAfter? 0 (digits n) = some n := by
  fun_induction digits n with
  | case1 n h => simp [valueAfter?, digitValue?_digit h]
  | case2 n h ih =>
    rw [valueAfter?_append, ih, Option.bind_some, valueAfter?,
      digitValue?_digit (Nat.mod_lt _ (by decide))]
    simp only [valueAfter?]
    congr 1
    omega

theorem digits_ne_nil (n : Nat) : digits n ≠ [] := by
  unfold digits
  split <;> simp

/-- The digits of a number spell it. -/
theorem value?_digits (n : Nat) : value? (digits n) = some n := by
  rw [value?, if_neg (digits_ne_nil n), valueAfter?_digits]

end Decimal

end PublicFunds
