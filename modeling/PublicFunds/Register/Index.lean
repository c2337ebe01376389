import PublicFunds.Register.Basic

/-!
# Registers with an index

Where records are unique under a pair of names, the register has an index entry for every pair.
Writing such a record keeps the index in step: a record whose pair is taken takes over the id that
is there, and a record that changes its pair gives up the old entry.

* `Register.lookup`, `Register.getByPair`: questions by pair.
* `Register.upsert`: the batch that writes a record and its index entry.
-/

namespace PublicFunds

namespace Register

variable {ρ : Type}

/-- The first byte of the keys of index entries. -/
def indexRegion [Record ρ] (r : Register ρ) : Except RegisterError UInt8 :=
  match r.index with
  | some region => .ok region
  | none => .error (.noIndex (Record.kind ρ))

/-- The id under a pair, if there is one. -/
def lookup [Record ρ] (r : Register ρ) (store : Store) (pair : PairKey) :
    Except RegisterError (Option RecordId) :=
  match r.indexRegion with
  | .error e => .error e
  | .ok region =>
    match store.find (Layout.pairKey region pair) with
    | .error fault => .error (.store fault)
    | .ok none => .ok none
    | .ok (some bs) => (Layout.countOf (Record.kind ρ) bs).map some

/-- The record under a pair. -/
def getByPair [Record ρ] (r : Register ρ) (store : Store) (pair : PairKey) :
    Except RegisterError ρ :=
  match r.lookup store pair with
  | .error e => .error e
  | .ok none => .error (.keyNotFound (Record.kind ρ) pair.display)
  | .ok (some id) => r.get store id

/-- The record under a pair, if there is one. -/
def findByPair [Record ρ] (r : Register ρ) (store : Store) (pair : PairKey) :
    Except RegisterError (Option ρ) :=
  match r.lookup store pair with
  | .error e => .error e
  | .ok none => .ok none
  | .ok (some id) => r.find store id

/-- The batch that writes an index entry. -/
def stagePair [Record ρ] (r : Register ρ) (pair : PairKey) (id : RecordId) :
    Except RegisterError Batch :=
  match r.indexRegion with
  | .error e => .error e
  | .ok region => .ok [.put (Layout.pairKey region pair) (Layout.count id)]

/-- The batch that gives up the index entry of the record with an id, if its pair is another. -/
def dropPair [Record ρ] [Paired ρ] (r : Register ρ) (store : Store) (id : RecordId) (pair : PairKey) :
    Except RegisterError Batch :=
  match r.find store id with
  | .error e => .error e
  | .ok none => .ok []
  | .ok (some previous) =>
    if Paired.pair previous = pair then .ok []
    else
      match r.indexRegion with
      | .error e => .error e
      | .ok region => .ok [.delete (Layout.pairKey region (Paired.pair previous))]

/-- A record under the id that it takes over, and the batch that makes room for it. -/
def settle [Record ρ] [Paired ρ] (r : Register ρ) (store : Store) (record : ρ) :
    Except RegisterError (ρ × Batch) :=
  match r.lookup store (Paired.pair record) with
  | .error e => .error e
  | .ok (some id) => .ok (Record.withId record id, [])
  | .ok none =>
    if Record.id record = 0 then .ok (record, [])
    else
      match r.dropPair store (Record.id record) (Paired.pair record) with
      | .error e => .error e
      | .ok batch => .ok (record, batch)

/-- A record with its id, and the batch that writes it and its index entry.  The id is the one
under the record's pair, else the record's own, else the next. -/
def upsert [Record ρ] [Paired ρ] (r : Register ρ) (store : Store) (record : ρ) :
    Except RegisterError (ρ × Batch) :=
  match r.settle store record with
  | .error e => .error e
  | .ok (record, making) =>
    match r.add store record with
    | .error e => .error e
    | .ok (record, writing) =>
      match r.stagePair (Paired.pair record) (Record.id record) with
      | .error e => .error e
      | .ok indexing => .ok (record, making ++ writing ++ indexing)

end Register

end PublicFunds
