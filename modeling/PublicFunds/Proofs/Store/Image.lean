import PublicFunds.Proofs.OrderedMap
import PublicFunds.Store.Basic

/-!
# The file of a store is read back

A store that is read from the file that was written of it has the same entries.  The lengths in a
file are four bytes, so this takes keys and values that are shorter than 2^32 bytes; nothing else is
asked of them.  A file has the entries in the order of their keys, and reading puts them in one
after the other.

* `Entries.Within`: keys and values are short enough.
* `Image.takeField_field`, `Image.decodeEntries_flatMap`: a field and all entries are taken off
  again.
* `Image.decode_encode`: the entries of a store are read back from its file.
-/

namespace PublicFunds

/-! ## Lengths -/

/-- Keys and values are shorter than a limit. -/
def Entries.Within (limit : Nat) (entries : Entries) : Prop :=
  ∀ key value, entries.get? key = some value → key.length < limit ∧ value.length < limit

theorem Entries.Within.mono {limit more : Nat} {entries : Entries} (h : entries.Within limit)
    (le : limit ≤ more) : entries.Within more :=
  fun key value found =>
    ⟨Nat.lt_of_lt_of_le (h key value found).1 le, Nat.lt_of_lt_of_le (h key value found).2 le⟩

theorem Entries.within_iff {limit : Nat} {entries : Entries} : entries.Within limit ↔
    ∀ e ∈ entries.toList, e.1.length < limit ∧ e.2.length < limit := by
  constructor
  · exact fun h e he => h e.1 e.2 (entries.get?_eq_some_iff.2 he)
  · exact fun h key value found => h (key, value) (entries.get?_eq_some_iff.1 found)

instance (limit : Nat) (entries : Entries) : Decidable (entries.Within limit) :=
  decidable_of_iff _ Entries.within_iff.symm

/-! ## Reading back -/

namespace Image

/-- A byte string behind its length is taken off again. -/
theorem takeField_field {bs : Bytes} (h : bs.length < Bytes.reach 4) (offset : Nat) (rest : Bytes) :
    takeField offset (field bs ++ rest) = .ok (bs, rest) := by
  have length := Bytes.cut?_append (Bytes.little 4 bs.length) (bs ++ rest)
  rw [Bytes.length_little] at length
  rw [takeField, field, List.append_assoc, length]
  simp only [Bytes.ofLittle_little, Nat.mod_eq_of_lt h, Bytes.cut?_append]

/-- A key and a value that stand in front are an entry, and the others follow. -/
theorem decodeEntries_of_takeField {offset : Nat} {bs key afterKey value rest : Bytes}
    (first : takeField offset bs = .ok (key, afterKey))
    (second : takeField (offset + 4 + key.length) afterKey = .ok (value, rest)) :
    decodeEntries offset bs =
      (decodeEntries (offset + 8 + key.length + value.length) rest).map ((key, value) :: ·) := by
  have some : bs ≠ [] := by
    rintro rfl
    cases first
  rw [decodeEntries, if_neg some]
  split
  · next h =>
    rw [first] at h
    cases h
  · next h =>
    rw [first] at h
    cases h
    split
    · next h =>
      rw [second] at h
      cases h
    · next h =>
      rw [second] at h
      cases h
      split
      · next h => rw [h]; rfl
      · next h => rw [h]; rfl

/-- Entries that stand one after the other are taken off again, in their order. -/
theorem decodeEntries_flatMap {es : List (Bytes × Bytes)}
    (short : ∀ e ∈ es, e.1.length < Bytes.reach 4 ∧ e.2.length < Bytes.reach 4) (offset : Nat) :
    decodeEntries offset (es.flatMap entry) = .ok es := by
  induction es generalizing offset with
  | nil => rw [List.flatMap_nil, decodeEntries, if_pos rfl]
  | cons e es ih =>
    obtain ⟨key, value⟩ := short e (List.mem_cons_self ..)
    rw [List.flatMap_cons, entry, List.append_assoc,
      decodeEntries_of_takeField (takeField_field key offset _) (takeField_field value _ _),
      ih fun e' he' => short e' (List.mem_cons_of_mem _ he')]
    rfl

/-- **The entries of a store are read back** from the file that is written of it. -/
theorem decode_encode {entries : Entries} (within : entries.Within (Bytes.reach 4)) :
    decode (encode entries) = .ok entries := by
  rw [decode, encode, decodeEntries_flatMap (Entries.within_iff.1 within)]
  exact congrArg Except.ok entries.ofList_toList

end Image

end PublicFunds
