import PublicFunds.Store.Entries
import PublicFunds.Store.Fault

/-!
# The file image of a store

A file holds the entries of a store one after the other, each as the length of its key, the key,
the length of its value, and the value.  A length is four bytes, the lowest digit first.  A file is
written with ascending keys; one that is read may have its entries in any order, and the last
entry of a key counts.

* `Image.encode`, `Image.decode`: the two directions.
-/

namespace PublicFunds

namespace Image

/-- A byte string behind its length. -/
def field (bs : Bytes) : Bytes := Bytes.little 4 bs.length ++ bs

/-- An entry in a file. -/
def entry (e : Bytes × Bytes) : Bytes := field e.1 ++ field e.2

/-- The file of a store. -/
def encode (entries : Entries) : Bytes := entries.toList.flatMap entry

/-- Takes a byte string and its length from the front of the rest of a file at `offset`. -/
def takeField (offset : Nat) (bs : Bytes) : Except StoreFault (Bytes × Bytes) :=
  match bs.cut? 4 with
  | none => .error (.truncatedLength offset)
  | some (length, rest) =>
    match rest.cut? (Bytes.ofLittle length) with
    | none => .error (.truncatedEntry (offset + 4))
    | some parts => .ok parts

/-- What is left of the file together with what was taken is what there was. -/
theorem length_of_takeField {offset : Nat} {bs chunk rest : Bytes}
    (h : takeField offset bs = .ok (chunk, rest)) :
    bs.length = 4 + chunk.length + rest.length := by
  unfold takeField at h
  split at h
  · contradiction
  · next length after h4 =>
    split at h
    · contradiction
    · next hcut =>
      cases h
      obtain ⟨rfl, hlength⟩ := Bytes.append_of_cut? h4
      obtain ⟨rfl, -⟩ := Bytes.append_of_cut? hcut
      simp only [List.length_append]
      omega

/-- The entries in the rest of a file at `offset`, in the order of the file. -/
def decodeEntries (offset : Nat) (bs : Bytes) : Except StoreFault (List (Bytes × Bytes)) :=
  if bs = [] then .ok []
  else
    match _hkey : takeField offset bs with
    | .error fault => .error fault
    | .ok (key, afterKey) =>
      match _hvalue : takeField (offset + 4 + key.length) afterKey with
      | .error fault => .error fault
      | .ok (value, rest) =>
        match decodeEntries (offset + 8 + key.length + value.length) rest with
        | .error fault => .error fault
        | .ok entries => .ok ((key, value) :: entries)
termination_by bs.length
decreasing_by
  have hk := length_of_takeField _hkey
  have hv := length_of_takeField _hvalue
  omega

/-- The contents that a file describes. -/
def decode (bs : Bytes) : Except StoreFault Entries :=
  match decodeEntries 0 bs with
  | .error fault => .error fault
  | .ok entries => .ok (.ofList entries)

end Image

end PublicFunds
