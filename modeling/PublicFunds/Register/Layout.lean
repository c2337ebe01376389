import PublicFunds.Key
import PublicFunds.Register.Error

/-!
# Keys inside a store

Several things share one store, told apart by the first byte of their keys.  A record stands under
its id in eight bytes, the highest digit first, so that the order of the keys is the order of the
ids.  The last id that was given out stands under the first byte alone.  An index entry stands
under the pair that it is for.

* `Layout.idKey`, `Layout.idOfKey`: the key of an id and back.
* `Layout.pairKey`: the key of a pair.
* `Layout.count`, `Layout.countOf`: a counter or an index value and back.
-/

namespace PublicFunds

namespace Layout

/-- The key of an id in a region. -/
def idKey (region : UInt8) (id : UInt64) : Bytes := region :: Bytes.big 8 id.toNat

/-- The id in a key: the eight bytes after the first.  `kind` is what the key is of. -/
def idOfKey (kind : String) (key : Bytes) : Except RegisterError UInt64 :=
  match Bytes.cut? 8 (key.drop 1) with
  | some (digits, _) => .ok (UInt64.ofNat (Bytes.ofBig digits))
  | none => .error (.unreadable kind s!"malformed id key of length {key.length}")

/-- The key of a pair in a region. -/
def pairKey (region : UInt8) (pair : PairKey) : Bytes := region :: pair.bytes

/-- A counter or an index value. -/
def count (n : UInt64) : Bytes := Bytes.big 8 n.toNat

/-- The number in a counter or an index value. -/
def countOf (kind : String) (bs : Bytes) : Except RegisterError UInt64 :=
  if bs.length = 8 then .ok (UInt64.ofNat (Bytes.ofBig bs))
  else .error (.unreadable kind s!"expected 8 bytes, got {bs.length}")

@[simp] theorem countOf_count (kind : String) (n : UInt64) : countOf kind (count n) = .ok n := by
  have hn : n.toNat < Bytes.reach 8 := n.toNat_lt
  rw [countOf, count, if_pos (Bytes.length_big ..), Bytes.ofBig_big, Nat.mod_eq_of_lt hn,
    UInt64.ofNat_toNat]

@[simp] theorem idOfKey_idKey (kind : String) (region : UInt8) (id : UInt64) :
    idOfKey kind (idKey region id) = .ok id := by
  have hid : id.toNat < Bytes.reach 8 := id.toNat_lt
  have hcut := Bytes.cut?_append (Bytes.big 8 id.toNat) []
  rw [Bytes.length_big, List.append_nil] at hcut
  rw [idOfKey, idKey, List.drop_succ_cons, List.drop_zero, hcut]
  simp only [Bytes.ofBig_big, Nat.mod_eq_of_lt hid, UInt64.ofNat_toNat]

end Layout

end PublicFunds
