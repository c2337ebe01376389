import PublicFunds.Lifecycle.Governed
import PublicFunds.Register.Tally
import PublicFunds.Store.Dialogue

/-!
# Registers in dialogue

What a register does with its store, call by call.  A question of a register is one or more
questions to the store; a change asks as much as it has to, prepares its batch, and commits it where
it is ready.  With a store, each of these comes to what the function of the store does that is
named like it: `Register.askFind` to `Register.find`, `Register.entering` to `Register.enter`.

* `Register.askFind`, `Register.askLast`, `Register.askLookup` and others: questions.
* `Register.askAdd`, `Register.askUpsert`, `Register.askLoad`: batches.
* `Register.entering`, `Register.advancing`, `Register.endorsing`, `Register.loadingVetted`,
  `Register.loadingVettedPaired`: changes.
-/

namespace PublicFunds

namespace Register

/-- A question to the store of a register. -/
def inquire (q : Store.Query) : Dialogue RegisterError q.Reply := .question .store q

/-- A batch for the store of a register. -/
def commit (batch : Batch) : Dialogue RecordError Unit :=
  .commit (fun fault => .register (.store fault)) batch

variable {ρ : Type} [Record ρ]

/-! ## Questions -/

/-- The last id that was given out; zero if none was. -/
def askLast (r : Register ρ) : Dialogue RegisterError UInt64 := do
  match ← inquire (.value [r.counter]) with
  | none => pure 0
  | some bs => .done (Layout.countOf (Record.kind ρ) bs)

/-- The next id, and the batch that gives it out. -/
def askNext (r : Register ρ) : Dialogue RegisterError (UInt64 × Batch) := do
  let n ← r.askLast
  if n.toNat + 1 < UInt64.size then pure (n + 1, r.setLast (n + 1))
  else .fail (.exhausted (Record.kind ρ))

/-- The record with an id, if there is one. -/
def askFind (r : Register ρ) (id : RecordId) : Dialogue RegisterError (Option ρ) := do
  match ← inquire (.value (Layout.idKey r.records id)) with
  | none => pure none
  | some bs => .done ((read (Record.kind ρ) (Record.form : Form ρ) bs).map some)

/-- The record with an id. -/
def askGet (r : Register ρ) (id : RecordId) : Dialogue RegisterError ρ := do
  match ← r.askFind id with
  | none => .fail (.notFound (Record.kind ρ) id)
  | some record => pure record

/-- Whether there is a record with an id. -/
def askContains (r : Register ρ) (id : RecordId) : Dialogue RegisterError Bool :=
  inquire (.presence (Layout.idKey r.records id))

/-- Whether the id that a record brings along is in use. -/
def askKnown (r : Register ρ) (record : ρ) : Dialogue RegisterError Bool :=
  if Record.id record = 0 then pure true else r.askContains (Record.id record)

/-- Whether no id was ever given out and there is no record. -/
def askIsEmpty (r : Register ρ) : Dialogue RegisterError Bool := do
  let n ← r.askLast
  if n = 0 then
    let entries ← inquire (.scan [r.records])
    pure entries.isEmpty
  else pure false

/-- The id under a pair, if there is one. -/
def askLookup (r : Register ρ) (pair : PairKey) : Dialogue RegisterError (Option RecordId) := do
  let region ← .done r.indexRegion
  match ← inquire (.value (Layout.pairKey region pair)) with
  | none => pure none
  | some bs => .done ((Layout.countOf (Record.kind ρ) bs).map some)

/-! ## Batches -/

/-- A record with an id, and the batch that writes it.  A record without one is given the next. -/
def askAdd (r : Register ρ) (record : ρ) : Dialogue RegisterError (ρ × Batch) :=
  if Record.id record = 0 then do
    let (id, batch) ← r.askNext
    let record := Record.withId record id
    pure (record, batch ++ [r.entry record])
  else pure (record, [r.entry record])

/-- The batch that loads a section. -/
def askLoad (r : Register ρ) (s : Section ρ) : Dialogue GenesisError Batch := do
  if ← r.askIsEmpty.mapError .register then
    .done s.checkIds
    pure (s.records.map r.entry ++ r.setLast s.count)
  else .fail (.notEmpty (Record.kind ρ))

section Paired

variable [Paired ρ]

/-- The batch that gives up the index entry of the record with an id, if its pair is another. -/
def askDropPair (r : Register ρ) (id : RecordId) (pair : PairKey) :
    Dialogue RegisterError Batch := do
  match ← r.askFind id with
  | none => pure []
  | some previous =>
    if Paired.pair previous = pair then pure []
    else
      let region ← .done r.indexRegion
      pure [.delete (Layout.pairKey region (Paired.pair previous))]

/-- A record under the id that it takes over, and the batch that makes room for it. -/
def askSettle (r : Register ρ) (record : ρ) : Dialogue RegisterError (ρ × Batch) := do
  match ← r.askLookup (Paired.pair record) with
  | some id => pure (Record.withId record id, [])
  | none =>
    if Record.id record = 0 then pure (record, [])
    else
      let batch ← r.askDropPair (Record.id record) (Paired.pair record)
      pure (record, batch)

/-- A record with its id, and the batch that writes it and its index entry. -/
def askUpsert (r : Register ρ) (record : ρ) : Dialogue RegisterError (ρ × Batch) := do
  let (record, making) ← r.askSettle record
  let (record, writing) ← r.askAdd record
  let indexing ← .done (r.stagePair (Paired.pair record) (Record.id record))
  pure (record, making ++ writing ++ indexing)

/-- The batch that loads a section and its index. -/
def askLoadPaired (r : Register ρ) (s : Section ρ) : Dialogue GenesisError Batch := do
  .done s.checkPairs
  let loading ← r.askLoad s
  let indexing ← .done ((r.stagePairs s.records).mapError .register)
  pure (loading ++ indexing)

end Paired

/-! ## Changes -/

section Vetted

variable [Vetted ρ]

/-- Writes a record that passes its checks under the id that its pair or it has, or a new one. -/
def entering [Paired ρ] (r : Register ρ) (format : AddressFormat) (record : ρ)
    (settled : ρ → ρ) : Dialogue RecordError RecordId := do
  .done (Vetted.checkFields format record)
  if ← (r.askKnown record).mapError .register then
    let (record, batch) ← (r.askUpsert (settled record)).mapError .register
    commit batch
    pure (Record.id record)
  else .fail (.register (.notFound (Record.kind ρ) (Record.id record)))

/-- Loads a section whose records pass their checks. -/
def loadingVetted (r : Register ρ) (format : AddressFormat) (s : Section ρ) :
    Dialogue RecordError Unit := do
  .done (Vetted.checkAll format s.records)
  let batch ← (r.askLoad s).mapError .genesis
  commit batch

/-- Loads a section whose records pass their checks, and the index of the register. -/
def loadingVettedPaired [Paired ρ] (r : Register ρ) (format : AddressFormat) (s : Section ρ) :
    Dialogue RecordError Unit := do
  .done (Vetted.checkAll format s.records)
  let batch ← (r.askLoadPaired s).mapError .genesis
  commit batch

/-- Writes a record that passes its checks in the place of the one with its id. -/
def replacing (r : Register ρ) (format : AddressFormat) (record : ρ) : Dialogue RecordError ρ := do
  .done (Vetted.check format record)
  let batch ← .done ((r.stage record).mapError .register)
  commit batch
  pure record

variable {σ : Type} [Lifecycle σ] [DecidableEq σ] [Governed ρ σ]

/-- Takes a stored record to its next status.  There is nothing to write if it is there. -/
def advancing (r : Register ρ) (policy : Policy) (scores : ScoreSource) (id : RecordId)
    (next : σ) : Dialogue RecordError ρ := do
  let record ← (r.askGet id).mapError .register
  match ← .done (Governed.transition policy.quorum scores record next) with
  | none => pure record
  | some record => r.replacing policy.addresses record

/-- Adds an approval to a stored record. -/
def endorsing (r : Register ρ) (policy : Policy) (scores : ScoreSource) (id : RecordId)
    (approval : Approval) (contract : String) : Dialogue RecordError ρ := do
  let record ← (r.askGet id).mapError .register
  let record ← .done (Governed.endorse policy scores record approval contract)
  r.replacing policy.addresses record

end Vetted

end Register

/-- The value for an id, if there is one. -/
def Tally.askFind {α : Type} (t : Tally α) (id : RecordId) :
    Dialogue RegisterError (Option α) := do
  match ← Register.inquire (.value (Layout.idKey t.region id)) with
  | none => pure none
  | some bs => .done ((Register.read t.kind t.form bs).map some)

end PublicFunds
