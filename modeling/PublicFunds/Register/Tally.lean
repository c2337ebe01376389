import PublicFunds.Register.Layout
import PublicFunds.Register.Basic

/-!
# Tallies

A tally is a part of a store with one value for each of some ids, for instance a running total.

* `Tally.find`, `Tally.entries`: questions.
* `Tally.entry`: the edit that writes a value.
-/

namespace PublicFunds

/-- Where the values are in a store, what they are called and how they are stored. -/
structure Tally (α : Type) where
  kind : String
  /-- The first byte of the keys. -/
  region : UInt8
  form : Form α

namespace Tally

variable {α : Type}

/-- The value for an id, if there is one. -/
def find (t : Tally α) (store : Store) (id : RecordId) : Except RegisterError (Option α) :=
  match store.find (Layout.idKey t.region id) with
  | .error fault => .error (.store fault)
  | .ok none => .ok none
  | .ok (some bs) => (Register.read t.kind t.form bs).map some

/-- The edit that writes a value. -/
def entry (t : Tally α) (id : RecordId) (value : α) : Edit :=
  .put (Layout.idKey t.region id) (t.form.encode value)

/-- The ids and values in some entries. -/
def readEntries (t : Tally α) : List (Bytes × Bytes) → Except RegisterError (List (RecordId × α))
  | [] => .ok []
  | (key, bs) :: rest =>
    match Layout.idOfKey t.kind key with
    | .error e => .error e
    | .ok id =>
      match Register.read t.kind t.form bs with
      | .error e => .error e
      | .ok value => (t.readEntries rest).map ((id, value) :: ·)

/-- Every id with its value, in the order of the ids. -/
def entries (t : Tally α) (store : Store) : Except RegisterError (List (RecordId × α)) :=
  match store.scan [t.region] with
  | .error fault => .error (.store fault)
  | .ok entries => t.readEntries entries

end Tally

end PublicFunds
