import PublicFunds.Register.Layout
import PublicFunds.Store.Entries

/-!
# The order of keys is the order of ids

A register shows its records in the order of their ids, but it only ever asks the store for entries
in the order of their keys.  The two are one order because a key puts the highest digit of its id
first and all ids have equally many digits.

* `Bytes.compare_of_length_eq`: digit strings of one length compare like their numbers.
* `Layout.compare_idKey`: keys compare like ids; `Layout.idKey_inj` and `Layout.count_inj` follow.
* `Layout.idOfKey_eq_ok_iff`: what is read as an id.
* `Layout.OrdersIds`, `Layout.ordersIds`: keys as an image of the ids in their order.
-/

namespace PublicFunds

namespace Bytes

/-- Bytes compare like their values. -/
theorem compare_toNat (a b : UInt8) : compare a.toNat b.toNat = compare a b := by
  show compareOfLessAndEq a.toNat b.toNat = compareOfLessAndEq a b
  simp only [compareOfLessAndEq, UInt8.lt_iff_toNat_lt, UInt8.toNat_inj]

/-- The order by comparison is the lexicographic one. -/
theorem compare_eq_lt_iff {as bs : Bytes} : compare as bs = .lt ↔ as < bs := by
  induction as generalizing bs with
  | nil =>
    cases bs with
    | nil => exact ⟨nofun, nofun⟩
    | cons b bs => exact ⟨fun _ => List.nil_lt_cons b bs, fun _ => rfl⟩
  | cons a as ih =>
    cases bs with
    | nil => exact ⟨nofun, nofun⟩
    | cons b bs =>
      rw [List.compare_cons_cons, Ordering.then_eq_lt, ih, List.cons_lt_cons_iff, ← compare_toNat,
        Nat.compare_eq_lt, Nat.compare_eq_eq, UInt8.lt_iff_toNat_lt, UInt8.toNat_inj]

/-- A digit more decides unless it is the same. -/
theorem compare_digit {r m n : Nat} (x y : Nat) (hm : m < r) (hn : n < r) :
    compare (m + r * x) (n + r * y) = (compare x y).then (compare m n) := by
  rcases Nat.lt_trichotomy x y with hlt | rfl | hgt
  · have below : r * (x + 1) ≤ r * y := Nat.mul_le_mul_left _ hlt
    rw [Nat.mul_add, Nat.mul_one] at below
    rw [Nat.compare_eq_lt.2 hlt, Nat.compare_eq_lt.2 (by omega)]
    rfl
  · rw [OrderedMap.compare_self]
    show compareOfLessAndEq (m + r * x) (n + r * x) = compareOfLessAndEq m n
    simp only [compareOfLessAndEq, Nat.add_lt_add_iff_right, Nat.add_right_cancel_iff]
  · have above : r * (y + 1) ≤ r * x := Nat.mul_le_mul_left _ hgt
    rw [Nat.mul_add, Nat.mul_one] at above
    rw [Nat.compare_eq_gt.2 hgt, Nat.compare_eq_gt.2 (by omega)]
    rfl

/-- One more digit at the low end of the digits that are read from there is the highest. -/
theorem ofLittle_append_singleton (bs : Bytes) (b : UInt8) :
    ofLittle (bs ++ [b]) = ofLittle bs + reach bs.length * b.toNat := by
  induction bs with
  | nil => simp [ofLittle, reach]
  | cons c bs ih =>
    rw [List.cons_append, ofLittle, ih, ofLittle, List.length_cons, reach, Nat.mul_add,
      Nat.add_assoc, Nat.mul_assoc]

/-- The first digit is the highest. -/
theorem ofBig_cons (b : UInt8) (bs : Bytes) :
    ofBig (b :: bs) = ofBig bs + reach bs.length * b.toNat := by
  rw [ofBig, List.reverse_cons, ofLittle_append_singleton, List.length_reverse, ← ofBig]

theorem ofBig_lt (bs : Bytes) : ofBig bs < reach bs.length := by
  have bound := ofLittle_lt bs.reverse
  rwa [List.length_reverse] at bound

/-- **Digit strings of one length compare like their numbers**, the highest digit first. -/
theorem compare_of_length_eq {as bs : Bytes} (h : as.length = bs.length) :
    compare as bs = compare (ofBig as) (ofBig bs) := by
  induction as generalizing bs with
  | nil =>
    cases bs with
    | nil => rfl
    | cons b bs => cases h
  | cons a as ih =>
    cases bs with
    | nil => cases h
    | cons b bs =>
      have same : as.length = bs.length := Nat.succ.inj h
      have ha := ofBig_lt as
      have hb := ofBig_lt bs
      rw [List.compare_cons_cons, ih same, ofBig_cons, ofBig_cons, same]
      rw [same] at ha
      rw [compare_digit _ _ ha hb, compare_toNat]

end Bytes

namespace Layout

/-- Eight digits are enough for an id. -/
theorem ofBig_big_toNat (id : UInt64) : Bytes.ofBig (Bytes.big 8 id.toNat) = id.toNat := by
  rw [Bytes.ofBig_big]
  exact Nat.mod_eq_of_lt id.toNat_lt

/-- **The order of keys is the order of ids.** -/
theorem compare_idKey (region : UInt8) (i j : UInt64) :
    compare (idKey region i) (idKey region j) = compare i j := by
  have digits : compare (Bytes.big 8 i.toNat) (Bytes.big 8 j.toNat) = compare i.toNat j.toNat := by
    rw [Bytes.compare_of_length_eq (by simp), ofBig_big_toNat, ofBig_big_toNat]
  rw [idKey, idKey, List.compare_cons_cons, OrderedMap.compare_self, digits]
  show compareOfLessAndEq i.toNat j.toNat = compareOfLessAndEq i j
  simp only [compareOfLessAndEq, UInt64.lt_iff_toNat_lt, UInt64.toNat_inj]

theorem idKey_inj {region : UInt8} {i j : UInt64} : idKey region i = idKey region j ↔ i = j := by
  constructor
  · intro h
    have same := congrArg (idOfKey "") h
    rw [idOfKey_idKey, idOfKey_idKey] at same
    exact Except.ok.inj same
  · rintro rfl
    rfl

theorem count_inj {m n : UInt64} : count m = count n ↔ m = n := by
  constructor
  · intro h
    have same := congrArg (countOf "") h
    rw [countOf_count, countOf_count] at same
    exact Except.ok.inj same
  · rintro rfl
    rfl

/-- **What is read as an id** begins with the key of the id in some region. -/
theorem idOfKey_eq_ok_iff {kind : String} {key : Bytes} {i : UInt64} :
    idOfKey kind key = .ok i ↔ ∃ region rest, key = idKey region i ++ rest := by
  constructor
  · intro h
    unfold idOfKey at h
    split at h
    · next digits rest cut =>
      obtain ⟨split, length⟩ := Bytes.append_of_cut? cut
      cases h
      cases key with
      | nil =>
        rw [List.drop_nil, List.append_eq_nil_iff] at split
        rw [split.1] at length
        cases length
      | cons region key =>
        have bound := Bytes.ofBig_lt digits
        have own := Bytes.big_ofBig digits
        rw [length] at bound own
        rw [List.drop_succ_cons, List.drop_zero] at split
        refine ⟨region, rest, ?_⟩
        rw [idKey, UInt64.toNat_ofNat_of_lt' bound, own, List.cons_append, split]
    · cases h
  · rintro ⟨region, rest, rfl⟩
    have cut := Bytes.cut?_append (Bytes.big 8 i.toNat) rest
    rw [Bytes.length_big] at cut
    rw [idOfKey, idKey, List.cons_append, List.drop_succ_cons, List.drop_zero, cut]
    simp only [ofBig_big_toNat, UInt64.ofNat_toNat]

/-- **One key comes before another exactly if its id is the lower one.** -/
theorem idKey_lt_idKey_iff {region : UInt8} {i j : UInt64} :
    idKey region i < idKey region j ↔ i < j := by
  rw [← Bytes.compare_eq_lt_iff, compare_idKey]
  exact Std.compare_eq_lt

theorem idKey_le_idKey_iff {region : UInt8} {i j : UInt64} :
    idKey region i ≤ idKey region j ↔ i ≤ j := by
  rw [← List.not_lt, idKey_lt_idKey_iff, UInt64.not_lt]

/-- The keys of a region are an image of the ids in their order, all the way to the last one. -/
structure OrdersIds (region : UInt8) : Prop where
  /-- One key comes before another exactly if its id is the lower one. -/
  below : ∀ i j, idKey region i < idKey region j ↔ i < j
  /-- The store, which compares keys, compares ids. -/
  compared : ∀ i j, compare (idKey region i) (idKey region j) = compare i j
  /-- The id of a key is read back. -/
  read : ∀ kind i, idOfKey kind (idKey region i) = .ok i
  /-- Nothing else is read as the id but what begins with such a key. -/
  only : ∀ kind key i, idOfKey kind key = .ok i ↔ ∃ first rest, key = idKey first i ++ rest
  /-- To sort keys is to sort their ids. -/
  sorted : ∀ ids : List UInt64,
    (ids.map (idKey region)).mergeSort = ids.mergeSort.map (idKey region)

/-- **Every region orders its keys by their ids.** -/
theorem ordersIds (region : UInt8) : OrdersIds region where
  below _ _ := idKey_lt_idKey_iff
  compared := compare_idKey region
  read kind i := idOfKey_idKey kind region i
  only _ _ _ := idOfKey_eq_ok_iff
  sorted ids := by
    refine (List.map_mergeSort fun i _ j _ => ?_).symm
    rw [Bool.eq_iff_iff, decide_eq_true_eq, decide_eq_true_eq, idKey_le_idKey_iff]

/-- The key of the last id is not the key of an id. -/
theorem idKey_ne_counter (region counter : UInt8) (i : UInt64) : idKey region i ≠ [counter] := by
  intro same
  have lengths := congrArg List.length same
  simp [idKey] at lengths

end Layout

end PublicFunds
