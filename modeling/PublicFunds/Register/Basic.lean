import PublicFunds.Register.Layout
import PublicFunds.Register.Record
import PublicFunds.Store.Basic

/-!
# Registers

A register is the part of a store that holds the records of one kind: the records under their ids,
the last id that was given out, and for some kinds an index from pairs of names to ids.  The
register itself is only a plan of where these are; what is in it is in the store.

Nothing here changes a store.  A change is prepared as a batch, from what the store holds before
it, and takes effect when the batch is committed.  Since the last id is read from the store and not
from the batch, a batch can give out one id.

* `Register.find`, `Register.get`, `Register.contains`, `Register.ids`, `Register.all`: questions.
* `Register.walk`: a fold over the records in the order of their ids, which can stop early.
* `Register.stage`, `Register.add`: the batch that writes a record, under its own or a new id.
-/

namespace PublicFunds

/-- Where the records of a kind are in a store. -/
structure Register (ρ : Type) where
  /-- The first byte of the keys of records. -/
  records : UInt8
  /-- The key of the last id that was given out. -/
  counter : UInt8
  /-- The first byte of the keys of index entries, if the kind has them. -/
  index : Option UInt8 := none

namespace Register

variable {ρ : Type} [Record ρ]

/-- A question to a store, as a question to a register. -/
def asking {α : Type} (answer : Except StoreFault α) : Except RegisterError α :=
  answer.mapError .store

/-- The value that some stored bytes are. -/
def read {α : Type} (kind : String) (form : Form α) (bs : Bytes) : Except RegisterError α :=
  match form.decode bs with
  | .ok (value, _) => .ok value
  | .error fault => .error (.unreadable kind fault.message)

/-! ## The counter -/

/-- The last id that was given out; zero if none was. -/
def last (r : Register ρ) (store : Store) : Except RegisterError UInt64 :=
  match store.find [r.counter] with
  | .error fault => .error (.store fault)
  | .ok none => .ok 0
  | .ok (some bs) => Layout.countOf (Record.kind ρ) bs

/-- The batch that sets the last id. -/
def setLast (r : Register ρ) (n : UInt64) : Batch := [.put [r.counter] (Layout.count n)]

/-- The next id, and the batch that gives it out. -/
def next (r : Register ρ) (store : Store) : Except RegisterError (UInt64 × Batch) :=
  match r.last store with
  | .error e => .error e
  | .ok n =>
    if n.toNat + 1 < UInt64.size then .ok (n + 1, r.setLast (n + 1))
    else .error (.exhausted (Record.kind ρ))

/-! ## Records by id -/

/-- The record with an id, if there is one. -/
def find (r : Register ρ) (store : Store) (id : RecordId) : Except RegisterError (Option ρ) :=
  match store.find (Layout.idKey r.records id) with
  | .error fault => .error (.store fault)
  | .ok none => .ok none
  | .ok (some bs) => (read (Record.kind ρ) (Record.form : Form ρ) bs).map some

/-- The record with an id. -/
def get (r : Register ρ) (store : Store) (id : RecordId) : Except RegisterError ρ :=
  match r.find store id with
  | .error e => .error e
  | .ok none => .error (.notFound (Record.kind ρ) id)
  | .ok (some record) => .ok record

/-- Whether there is a record with an id. -/
def contains (r : Register ρ) (store : Store) (id : RecordId) : Except RegisterError Bool :=
  asking (store.contains (Layout.idKey r.records id))

/-! ## All records -/

/-- Every record in the order of the ids, or why it cannot be read. -/
def each (r : Register ρ) (store : Store) :
    Except RegisterError (List (Except RegisterError ρ)) :=
  (asking (store.scan [r.records])).map fun entries =>
    entries.map fun entry => read (Record.kind ρ) (Record.form : Form ρ) entry.2

/-- Goes through some records until a visit is the last one or a record cannot be read. -/
def visit {σ : Type} (f : σ → ρ → ForInStep σ) (state : σ) :
    List (Except RegisterError ρ) → Except RegisterError σ
  | [] => .ok state
  | .error e :: _ => .error e
  | .ok record :: rest =>
    match f state record with
    | .done state => .ok state
    | .yield state => visit f state rest

/-- Goes through the records in the order of their ids. -/
def walk {σ : Type} (r : Register ρ) (store : Store) (f : σ → ρ → ForInStep σ) (state : σ) :
    Except RegisterError σ :=
  match r.each store with
  | .error e => .error e
  | .ok records => visit f state records

/-- The records in the order of their ids: all of them, or the first ones.  At least one is
visited. -/
def walkList (r : Register ρ) (store : Store) (limit : Option Nat) :
    Except RegisterError (List ρ) :=
  (r.walk store (fun (seen : List ρ) record =>
    match limit with
    | some n => if n ≤ seen.length + 1 then .done (record :: seen) else .yield (record :: seen)
    | none => .yield (record :: seen)) []).map List.reverse

/-- All records in the order of their ids. -/
def all (r : Register ρ) (store : Store) : Except RegisterError (List ρ) :=
  r.walkList store none

/-- The ids in the keys of some entries. -/
def idsOf (kind : String) : List (Bytes × Bytes) → Except RegisterError (List RecordId)
  | [] => .ok []
  | entry :: rest =>
    match Layout.idOfKey kind entry.1 with
    | .error e => .error e
    | .ok id => (idsOf kind rest).map (id :: ·)

/-- The ids that are in use, ascending. -/
def ids (r : Register ρ) (store : Store) : Except RegisterError (List RecordId) :=
  match store.scan [r.records] with
  | .error fault => .error (.store fault)
  | .ok entries => idsOf (Record.kind ρ) entries

/-- Whether no id was ever given out and there is no record. -/
def isEmpty (r : Register ρ) (store : Store) : Except RegisterError Bool :=
  match r.last store with
  | .error e => .error e
  | .ok n =>
    if n = 0 then (asking (store.scan [r.records])).map List.isEmpty else .ok false

/-! ## Writing -/

/-- The edit that writes a record under its id. -/
def entry (r : Register ρ) (record : ρ) : Edit :=
  .put (Layout.idKey r.records (Record.id record)) ((Record.form : Form ρ).encode record)

/-- The batch that writes a record that has an id. -/
def stage (r : Register ρ) (record : ρ) : Except RegisterError Batch :=
  if Record.id record = 0 then .error (.unassigned (Record.kind ρ)) else .ok [r.entry record]

/-- A record with an id, and the batch that writes it.  A record without one is given the next. -/
def add (r : Register ρ) (store : Store) (record : ρ) : Except RegisterError (ρ × Batch) :=
  if Record.id record = 0 then
    match r.next store with
    | .error e => .error e
    | .ok (id, batch) =>
      let record := Record.withId record id
      .ok (record, batch ++ [r.entry record])
  else .ok (record, [r.entry record])

end Register

end PublicFunds
