import PublicFunds.Register.Index

/-!
# Exporting and loading a register

All that a register holds can be taken out as a section: its records, and the last id that was
given out, so that no id is ever given out again after the section is loaded elsewhere.  A section
is loaded only into a register that was never used, and only if its ids could have been given out
by such a register.

* `Register.extract`: the section of a register.
* `Section.checkIds`, `Section.checkPairs`: what a section has to satisfy.
* `Register.load`, `Register.loadPaired`: the batch that loads a section.
-/

namespace PublicFunds

/-- The records of a register and the last id that was given out. -/
structure Section (ρ : Type) where
  records : List ρ
  count : UInt64
  deriving DecidableEq, Repr

namespace Section

variable {ρ : Type}

/-- The section of a register that was never used. -/
def empty : Section ρ := ⟨[], 0⟩

instance : Inhabited (Section ρ) := ⟨empty⟩

/-- The fields of a section. -/
def fields (form : Form ρ) : Fields (List ρ × UInt64 × Unit) :=
  .field "records" form.list (.field "count" .word64 .nil)

/-- The form of a section of records with some form. -/
def form (form : Form ρ) : Form (Section ρ) :=
  (fields form).form.iso (fun s => (s.records, s.count, ())) (fun p => ⟨p.1, p.2.1⟩)

/-- Goes through some ids with those before them: none may be zero, be there already or be above
the last. -/
def checkIdsAfter (kind : String) (count : UInt64) (seen : List RecordId) :
    List RecordId → Except GenesisError Unit
  | [] => .ok ()
  | id :: rest =>
    if id = 0 then .error (.zeroId kind)
    else if id ∈ seen then .error (.duplicateId kind id)
    else if count < id then .error (.idBeyondCount kind id count)
    else checkIdsAfter kind count (id :: seen) rest

/-- Whether the ids of a section could have been given out. -/
def checkIds [Record ρ] (s : Section ρ) : Except GenesisError Unit :=
  checkIdsAfter (Record.kind ρ) s.count [] (s.records.map Record.id)

/-- Goes through some pairs with those before them: none may be there already. -/
def checkPairsAfter (kind : String) (seen : List PairKey) :
    List PairKey → Except GenesisError Unit
  | [] => .ok ()
  | pair :: rest =>
    if pair ∈ seen then .error (.duplicateKey kind pair.display)
    else checkPairsAfter kind (pair :: seen) rest

/-- Whether no two records of a section have one pair. -/
def checkPairs [Record ρ] [Paired ρ] (s : Section ρ) : Except GenesisError Unit :=
  checkPairsAfter (Record.kind ρ) [] (s.records.map Paired.pair)

end Section

namespace Register

variable {ρ : Type}

/-- The section of a register. -/
def extract [Record ρ] (r : Register ρ) (store : Store) : Except RegisterError (Section ρ) :=
  match r.all store with
  | .error e => .error e
  | .ok records =>
    match r.last store with
    | .error e => .error e
    | .ok count => .ok ⟨records, count⟩

/-- The batch that loads a section. -/
def load [Record ρ] (r : Register ρ) (store : Store) (s : Section ρ) :
    Except GenesisError Batch :=
  match r.isEmpty store with
  | .error e => .error (.register e)
  | .ok false => .error (.notEmpty (Record.kind ρ))
  | .ok true =>
    match s.checkIds with
    | .error e => .error e
    | .ok () => .ok (s.records.map r.entry ++ r.setLast s.count)

/-- The batch that writes the index entries of some records. -/
def stagePairs [Record ρ] [Paired ρ] (r : Register ρ) : List ρ → Except RegisterError Batch
  | [] => .ok []
  | record :: rest =>
    match r.stagePair (Paired.pair record) (Record.id record) with
    | .error e => .error e
    | .ok batch => (r.stagePairs rest).map (batch ++ ·)

/-- The batch that loads a section and its index, as far as it could be prepared, and why it is
not complete if it is not: the index comes last, and a register may have none. -/
def loadPaired [Record ρ] [Paired ρ] (r : Register ρ) (store : Store) (s : Section ρ) :
    Batch × Except GenesisError Unit :=
  match s.checkPairs with
  | .error e => ([], .error e)
  | .ok () =>
    match r.load store s with
    | .error e => ([], .error e)
    | .ok loading =>
      match r.stagePairs s.records with
      | .error e => (loading, .error (.register e))
      | .ok indexing => (loading ++ indexing, .ok ())

end Register

end PublicFunds
