import PublicFunds.Proofs.Store.Image

/-!
# The files that can be read

That a store is read back from its own file says nothing about other files.  A file can be cut
short anywhere, a length in it can point past its end, and a key can come up twice.  The reader
takes exactly the files that list complete entries, and it finds out about every other file.

What a file lists is said here without the reader and without the writer, by the digits that stand
in front of each key and each value.  The lengths that four bytes can tell are no condition then,
they are what comes of it.  Since a reader that goes through the file can take an entry in one way
only, the list is that of the file, and a file is the one that would be written of its store exactly
if its keys ascend.

* `Image.Lists`: the entries that a file lists; `Image.lists_iff`: the same by what is written.
* `Image.decodeEntries_eq_ok_iff`: what is read is what the file lists.
* `Image.truncated_of_decodeEntries`: any other file is cut short at a place in it.
* `Image.encode_eq_iff`: the files that are written.
* `Image.decodes`: all of this for the contents of a store.
-/

namespace PublicFunds

namespace Image

/-! ## Complete entries -/

/-- A file lists some entries, one after the other and nothing else.  An entry is the length of its
key in four bytes, the lowest digit first, then the key, and the same for the value. -/
inductive Lists : Bytes → List (Bytes × Bytes) → Prop where
  | nil : Lists [] []
  | cons {keyLength key valueLength value rest : Bytes} {es : List (Bytes × Bytes)}
      (keyDigits : keyLength.length = 4) (keySize : Bytes.ofLittle keyLength = key.length)
      (valueDigits : valueLength.length = 4)
      (valueSize : Bytes.ofLittle valueLength = value.length) (others : Lists rest es) :
      Lists (keyLength ++ key ++ (valueLength ++ value) ++ rest) ((key, value) :: es)

/-- Entries whose lengths four bytes can tell. -/
def Tellable (es : List (Bytes × Bytes)) : Prop :=
  ∀ e ∈ es, e.1.length < Bytes.reach 4 ∧ e.2.length < Bytes.reach 4

/-- Four bytes that tell the length of a byte string are the ones that are written for it. -/
theorem field_of_digits {length bs : Bytes} (digits : length.length = 4)
    (size : Bytes.ofLittle length = bs.length) :
    length ++ bs = field bs ∧ bs.length < Bytes.reach 4 := by
  have written := Bytes.little_ofLittle length
  have bound := Bytes.ofLittle_lt length
  rw [digits, size] at written bound
  exact ⟨by rw [field, written], bound⟩

/-- **What a file lists is what its bytes are written of**, and lengths can be told. -/
theorem lists_iff {bs : Bytes} {es : List (Bytes × Bytes)} :
    Lists bs es ↔ bs = es.flatMap entry ∧ Tellable es := by
  constructor
  · intro h
    induction h with
    | nil => exact ⟨rfl, fun _ he => absurd he List.not_mem_nil⟩
    | cons keyDigits keySize valueDigits valueSize _ ih =>
      obtain ⟨rfl, short⟩ := ih
      obtain ⟨hkey, shortKey⟩ := field_of_digits keyDigits keySize
      obtain ⟨hvalue, shortValue⟩ := field_of_digits valueDigits valueSize
      refine ⟨?_, List.forall_mem_cons.2 ⟨⟨shortKey, shortValue⟩, short⟩⟩
      rw [hkey, hvalue, List.flatMap_cons, entry]
  · rintro ⟨rfl, short⟩
    induction es with
    | nil => exact .nil
    | cons e es ih =>
      obtain ⟨⟨shortKey, shortValue⟩, short⟩ := List.forall_mem_cons.1 short
      have size : ∀ bs : Bytes, bs.length < Bytes.reach 4 →
          Bytes.ofLittle (Bytes.little 4 bs.length) = bs.length := by
        intro bs h
        rw [Bytes.ofLittle_little, Nat.mod_eq_of_lt h]
      exact .cons (Bytes.length_little ..) (size _ shortKey) (Bytes.length_little ..)
        (size _ shortValue) (ih short)

/-! ## Reading -/

/-- What is taken from the front is a byte string behind its length. -/
theorem field_of_takeField {offset : Nat} {bs chunk rest : Bytes}
    (h : takeField offset bs = .ok (chunk, rest)) :
    bs = field chunk ++ rest ∧ chunk.length < Bytes.reach 4 := by
  unfold takeField at h
  split at h
  · cases h
  · next length after hlength =>
    split at h
    · cases h
    · next hchunk =>
      cases h
      obtain ⟨rfl, digits⟩ := Bytes.append_of_cut? hlength
      obtain ⟨rfl, size⟩ := Bytes.append_of_cut? hchunk
      obtain ⟨written, short⟩ := field_of_digits digits size.symm
      exact ⟨by rw [← written, List.append_assoc], short⟩

/-- A field that cannot be taken is cut short, at a place in the file. -/
theorem truncated_of_takeField {offset : Nat} {bs : Bytes} {fault : StoreFault}
    (h : takeField offset bs = .error fault) : ∃ place ≤ offset + bs.length,
      fault = .truncatedLength place ∨ fault = .truncatedEntry place := by
  unfold takeField at h
  split at h
  · cases h
    exact ⟨offset, Nat.le_add_right .., .inl rfl⟩
  · next length after hlength =>
    split at h
    · cases h
      obtain ⟨rfl, digits⟩ := Bytes.append_of_cut? hlength
      refine ⟨offset + 4, ?_, .inr rfl⟩
      rw [List.length_append, digits]
      omega
    · cases h

/-- Entries that are read make up the file. -/
theorem flatMap_of_decodeEntries {offset : Nat} {bs : Bytes} {es : List (Bytes × Bytes)}
    (h : decodeEntries offset bs = .ok es) : bs = es.flatMap entry ∧ Tellable es := by
  fun_induction decodeEntries offset bs generalizing es with
  | case1 =>
    cases h
    exact ⟨rfl, fun _ he => absurd he List.not_mem_nil⟩
  | case2 => cases h
  | case3 => cases h
  | case4 => cases h
  | case5 offset bs _ key afterKey hkey value rest hvalue others hothers ih =>
    cases h
    obtain ⟨rfl, shortKey⟩ := field_of_takeField hkey
    obtain ⟨rfl, shortValue⟩ := field_of_takeField hvalue
    obtain ⟨rfl, short⟩ := ih hothers
    refine ⟨?_, List.forall_mem_cons.2 ⟨⟨shortKey, shortValue⟩, short⟩⟩
    rw [List.flatMap_cons, entry, List.append_assoc]

/-- A file that cannot be read is cut short, at a place in it. -/
theorem truncated_of_decodeEntries {offset : Nat} {bs : Bytes} {fault : StoreFault}
    (h : decodeEntries offset bs = .error fault) : ∃ place ≤ offset + bs.length,
      fault = .truncatedLength place ∨ fault = .truncatedEntry place := by
  fun_induction decodeEntries offset bs generalizing fault with
  | case1 => cases h
  | case2 offset bs _ fault' hkey =>
    cases h
    exact truncated_of_takeField hkey
  | case3 offset bs _ key afterKey hkey fault' hvalue =>
    cases h
    have size := length_of_takeField hkey
    obtain ⟨place, le, cut⟩ := truncated_of_takeField hvalue
    exact ⟨place, by omega, cut⟩
  | case4 offset bs _ key afterKey hkey value rest hvalue fault' hothers ih =>
    cases h
    have sizeKey := length_of_takeField hkey
    have sizeValue := length_of_takeField hvalue
    obtain ⟨place, le, cut⟩ := ih hothers
    exact ⟨place, by omega, cut⟩
  | case5 => cases h

/-- **What is read is what the file lists**, wherever reading starts to count. -/
theorem decodeEntries_eq_ok_iff {offset : Nat} {bs : Bytes} {es : List (Bytes × Bytes)} :
    decodeEntries offset bs = .ok es ↔ Lists bs es := by
  rw [lists_iff]
  constructor
  · exact flatMap_of_decodeEntries
  · rintro ⟨rfl, tellable⟩
    exact decodeEntries_flatMap tellable offset

/-- A file lists one thing. -/
theorem Lists.unique {bs : Bytes} {es fs : List (Bytes × Bytes)} (first : Lists bs es)
    (second : Lists bs fs) : es = fs := by
  have same := (@decodeEntries_eq_ok_iff 0 bs es).2 first
  rw [decodeEntries_eq_ok_iff.2 second] at same
  exact (Except.ok.inj same).symm

/-- The contents that a file describes are those of the entries that it lists. -/
theorem decode_eq_ok_iff {bs : Bytes} {entries : Entries} :
    decode bs = .ok entries ↔ ∃ es, Lists bs es ∧ entries = .ofList es := by
  unfold decode
  split
  · next fault hread =>
    constructor
    · intro h
      cases h
    · rintro ⟨es, lists, -⟩
      rw [decodeEntries_eq_ok_iff.2 lists] at hread
      cases hread
  · next es hread =>
    have lists := decodeEntries_eq_ok_iff.1 hread
    constructor
    · intro h
      cases h
      exact ⟨es, lists, rfl⟩
    · rintro ⟨fs, lists', rfl⟩
      rw [lists.unique lists']

/-- The contents of a listing are short enough to be written. -/
theorem Lists.within {bs : Bytes} {es : List (Bytes × Bytes)} (h : Lists bs es) :
    Entries.Within (Bytes.reach 4) (.ofList es) := by
  intro key value found
  obtain ⟨front, back, rfl, -⟩ := (OrderedMap.get?_ofList_eq_some_iff es).1 found
  exact (lists_iff.1 h).2 (key, value) (by simp)

/-- **The files that are written** are those whose keys ascend. -/
theorem encode_eq_iff {bs : Bytes} {es : List (Bytes × Bytes)} (h : Lists bs es) :
    encode (.ofList es) = bs ↔ es.Pairwise fun a b => compare a.1 b.1 = .lt := by
  constructor
  · intro written
    -- what is written of the contents lists them in ascending order, and nothing else is listed
    have listed : Lists bs (OrderedMap.ofList es).toList := by
      rw [← written]
      exact lists_iff.2 ⟨rfl, Entries.within_iff.1 h.within⟩
    rw [h.unique listed]
    exact (OrderedMap.ofList es).ascending
  · intro ascending
    have same : OrderedMap.ofList es = ⟨es, ascending⟩ := OrderedMap.ofList_toList ⟨es, ascending⟩
    rw [same, encode]
    exact (lists_iff.1 h).1.symm

/-- **A file is read exactly if it lists complete entries**, and what is read has the last value of
each key.  Any other file is found to be cut short, at a place in it.  What is saved is read back,
if keys and values are shorter than 2^32 bytes, and saving what was read gives the file again
exactly if its keys ascend. -/
theorem decodes :
    (∀ bs, (∃ entries, decode bs = .ok entries) ↔ ∃ es, Lists bs es) ∧
      (∀ bs entries, decode bs = .ok entries ↔ ∃ es, Lists bs es ∧
        ∀ key value, entries.get? key = some value ↔ OrderedMap.IsLast es key value) ∧
      (∀ bs, (¬ ∃ es, Lists bs es) → ∃ place ≤ bs.length,
        decode bs = .error (.truncatedLength place) ∨ decode bs = .error (.truncatedEntry place)) ∧
      (∀ (entries : Entries) (disk : Disk), entries.Within (Bytes.reach 4) →
        ∃ bs, (disk.save (encode entries) none).2.file = some bs ∧ decode bs = .ok entries) ∧
      ∀ bs es entries, Lists bs es → decode bs = .ok entries →
        (encode entries = bs ↔ es.Pairwise fun a b => compare a.1 b.1 = .lt) := by
  refine ⟨fun bs => ?_, fun bs entries => ?_, fun bs unlisted => ?_, fun entries disk within => ?_,
    fun bs es entries lists read => ?_⟩
  · constructor
    · rintro ⟨entries, read⟩
      obtain ⟨es, lists, -⟩ := decode_eq_ok_iff.1 read
      exact ⟨es, lists⟩
    · rintro ⟨es, lists⟩
      exact ⟨_, decode_eq_ok_iff.2 ⟨es, lists, rfl⟩⟩
  · rw [decode_eq_ok_iff]
    constructor
    · rintro ⟨es, lists, rfl⟩
      exact ⟨es, lists, fun key value => OrderedMap.get?_ofList_eq_some_iff es⟩
    · rintro ⟨es, lists, last⟩
      refine ⟨es, lists, OrderedMap.ext_get? fun key => Option.ext fun value => ?_⟩
      rw [last, OrderedMap.get?_ofList_eq_some_iff]
  · cases read : decodeEntries 0 bs with
    | ok es => exact absurd ⟨es, decodeEntries_eq_ok_iff.1 read⟩ unlisted
    | error fault =>
      obtain ⟨place, le, cut⟩ := truncated_of_decodeEntries read
      rw [Nat.zero_add] at le
      refine ⟨place, le, cut.imp ?_ ?_⟩
      · rintro rfl
        rw [decode, read]
      · rintro rfl
        rw [decode, read]
  · rw [Disk.save_none]
    exact ⟨_, disk.file_saved _, decode_encode within⟩
  · obtain ⟨fs, lists', rfl⟩ := decode_eq_ok_iff.1 read
    rw [lists.unique lists']
    exact encode_eq_iff lists'

/-- A file that says of one key first that its value is empty and then that it is a nine. -/
def twiceListed : Bytes := [1, 0, 0, 0, 7, 0, 0, 0, 0, 1, 0, 0, 0, 7, 1, 0, 0, 0, 9]

/-- The file is read, its second entry counts, and it would not be written like this.  Its contents
are read back from what is saved of them, and without its last byte it cannot be read. -/
theorem decodes_twiceListed :
    ∃ entries, decode twiceListed = .ok entries ∧ entries.get? [7] = some [9] ∧
      encode entries ≠ twiceListed ∧
      (∃ bs, ((Disk.holding "seven" none).save (encode entries) none).2.file = some bs ∧
        decode bs = .ok entries) ∧
      ∃ place ≤ 18, decode twiceListed.dropLast = .error (.truncatedLength place) ∨
        decode twiceListed.dropLast = .error (.truncatedEntry place) := by
  have lists : Lists twiceListed [([7], []), ([7], [9])] :=
    lists_iff.2 ⟨by decide, by unfold Tellable; decide⟩
  have unlisted : ¬ ∃ es, Lists twiceListed.dropLast es := by
    rintro ⟨es, listed⟩
    -- what is listed is read, and the last value is a byte short
    have read := (@decodeEntries_eq_ok_iff 0 _ es).2 listed
    simp [twiceListed, decodeEntries, takeField, Bytes.cut?, Bytes.ofLittle] at read
  obtain ⟨listing, last, torn, saved, rewritten⟩ := decodes
  obtain ⟨entries, read⟩ := (listing twiceListed).2 ⟨_, lists⟩
  obtain ⟨es, lists', counts⟩ := (last twiceListed entries).1 read
  obtain rfl := lists.unique lists'
  have within : entries.Within (Bytes.reach 4) := by
    obtain ⟨fs, listed, rfl⟩ := decode_eq_ok_iff.1 read
    exact listed.within
  have counted : entries.get? [7] = some [9] :=
    (counts [7] [9]).2 ⟨[([7], [])], [], rfl, List.forall_mem_nil _⟩
  refine ⟨entries, read, counted, fun same => ?_, saved entries _ within, torn _ unlisted⟩
  have ascending := (rewritten _ _ _ lists read).1 same
  exact absurd ascending (by decide)

end Image

end PublicFunds
