/-!
# Byte strings and the numbers written in them

Everything the ledger stores is a list of bytes under a list of bytes.  A number enters such a
list as a fixed count of base-256 digits.  Two digit orders are in use, for two reasons: keys put
the highest digit first, so that the order of keys is the order of the numbers in them, and the
values of records put the lowest digit first.

* `Bytes.little`, `Bytes.big`: the digits of a number, with `ofLittle_little` and `ofBig_big`
  reading them back.
* `Bytes.cut?`: the first `n` bytes and the rest, when there are that many.
-/

namespace PublicFunds

/-- A byte string.  Its order is lexicographic. -/
abbrev Bytes := List UInt8

namespace Bytes

/-! ## Fixed-width numbers -/

/-- The `width` lowest base-256 digits of a number, the lowest digit first. -/
def little : Nat → Nat → Bytes
  | 0, _ => []
  | width + 1, n => UInt8.ofNat (n % 256) :: little width (n / 256)

/-- The first number that `width` digits do not reach. -/
def reach : Nat → Nat
  | 0 => 1
  | width + 1 => 256 * reach width

/-- The number whose base-256 digits are given, the lowest digit first. -/
def ofLittle : Bytes → Nat
  | [] => 0
  | b :: rest => b.toNat + 256 * ofLittle rest

/-- The `width` lowest base-256 digits of a number, the highest digit first. -/
def big (width n : Nat) : Bytes := (little width n).reverse

/-- The number whose base-256 digits are given, the highest digit first. -/
def ofBig (bs : Bytes) : Nat := ofLittle bs.reverse

@[simp] theorem length_little (width n : Nat) : (little width n).length = width := by
  induction width generalizing n with
  | zero => rfl
  | succ width ih => simp [little, ih]

@[simp] theorem length_big (width n : Nat) : (big width n).length = width := by
  simp [big]

/-- Reading the digits back gives the number up to the digits that were dropped. -/
theorem ofLittle_little (width n : Nat) : ofLittle (little width n) = n % reach width := by
  induction width generalizing n with
  | zero => simp [little, ofLittle, reach, Nat.mod_one]
  | succ width ih =>
    have digit : (UInt8.ofNat (n % 256)).toNat = n % 256 := by simp
    rw [little, ofLittle, ih, digit, reach, Nat.mod_mul]

/-- Digits are the digits of the number that they name. -/
theorem little_ofLittle (bs : Bytes) : little bs.length (ofLittle bs) = bs := by
  induction bs with
  | nil => rfl
  | cons b rest ih =>
    have hb := b.toNat_lt
    have digit : (b.toNat + 256 * ofLittle rest) % 256 = b.toNat := by omega
    have others : (b.toNat + 256 * ofLittle rest) / 256 = ofLittle rest := by omega
    rw [ofLittle, List.length_cons, little, digit, others, ih, UInt8.ofNat_toNat]

theorem ofBig_big (width n : Nat) : ofBig (big width n) = n % reach width := by
  rw [ofBig, big, List.reverse_reverse, ofLittle_little]

theorem big_ofBig (bs : Bytes) : big bs.length (ofBig bs) = bs := by
  have digits := little_ofLittle bs.reverse
  rw [List.length_reverse] at digits
  rw [big, ofBig, digits, List.reverse_reverse]

/-- Digits name a number that their width reaches. -/
theorem ofLittle_lt (bs : Bytes) : ofLittle bs < reach bs.length := by
  induction bs with
  | nil => simp [ofLittle, reach]
  | cons b rest ih =>
    have hb := b.toNat_lt
    rw [ofLittle, List.length_cons, reach]
    omega

/-! ## Cutting -/

/-- The first `n` bytes and the bytes after them, if there are `n`. -/
def cut? (n : Nat) (bs : Bytes) : Option (Bytes × Bytes) :=
  if n ≤ bs.length then some (bs.take n, bs.drop n) else none

theorem cut?_append (front rest : Bytes) :
    cut? front.length (front ++ rest) = some (front, rest) := by
  simp [cut?]

theorem cut?_eq_none_iff {n : Nat} {bs : Bytes} : cut? n bs = none ↔ bs.length < n := by
  simp [cut?]

/-- The parts of a cut are the whole, and the first has the length asked for. -/
theorem append_of_cut? {n : Nat} {bs front rest : Bytes} (h : cut? n bs = some (front, rest)) :
    front ++ rest = bs ∧ front.length = n := by
  unfold cut? at h
  split at h
  · next hn =>
    obtain ⟨rfl, rfl⟩ := Prod.mk.inj (Option.some.inj h)
    exact ⟨List.take_append_drop n bs, by rw [List.length_take]; omega⟩
  · contradiction

end Bytes

end PublicFunds
