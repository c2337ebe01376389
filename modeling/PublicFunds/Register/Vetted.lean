import PublicFunds.Check
import PublicFunds.RecordError
import PublicFunds.Register.Section

/-!
# Records that are checked, and changes of their store

A record is checked before it is written.  Most checks concern its fields; that it has an id is
checked as well, except when it is about to be given one.

A change goes in two steps.  First it is worked out from what the store holds: either there is a
reason to refuse it, or there is an answer and a batch.  Then the batch is committed, in one write.
So a change that is refused, or whose write fails, leaves no trace.

* `Vetted.check`: all checks of a record.
* `Store.carryOut`: the second step of a change.
* `Register.loadVetted`: the change that loads a section.
-/

namespace PublicFunds

/-- A kind of record with rules about its fields. -/
class Vetted (ρ : Type) [Record ρ] where
  /-- What the id is called when it is missing. -/
  idField : String
  /-- The checks that do not concern the id. -/
  checkFields : AddressFormat → ρ → Except RecordError Unit

namespace Vetted

variable {ρ : Type} [Record ρ] [Vetted ρ]

/-- All checks of a record that has been given its id. -/
def check (format : AddressFormat) (record : ρ) : Except RecordError Unit :=
  if Record.id record = 0 then
    .error (.invalid (Record.kind ρ) (.unset (Vetted.idField ρ)))
  else checkFields format record

/-- The checks of an export: every record has to pass. -/
def checkAll (format : AddressFormat) : List ρ → Except RecordError Unit
  | [] => .ok ()
  | record :: rest =>
    match check format record with
    | .error e =>
      .error (.genesis (.invalidRecord (Record.kind ρ) (Record.id record) e.message))
    | .ok () => checkAll format rest

end Vetted

/-- A change that has been worked out: a reason to refuse it, or its answer and what to write. -/
abbrev Plan (α : Type) := Except RecordError (α × Batch)

/-- The store after a change, and the answer. -/
def Store.carryOut {α : Type} (store : Store) (plan : Plan α) : Except RecordError α × Store :=
  match plan with
  | .error e => (.error e, store)
  | .ok (answer, batch) =>
    match store.commit batch with
    | (.error fault, store) => (.error (.register (.store fault)), store)
    | (.ok (), store) => (.ok answer, store)

/-- The error of a register, as one about records. -/
def Register.blame {α : Type} (answer : Except RegisterError α) : Except RecordError α :=
  answer.mapError .register

namespace Register

variable {ρ : Type} [Record ρ] [Vetted ρ]

/-- Loads a section whose records pass their checks. -/
def loadVetted (r : Register ρ) (format : AddressFormat) (store : Store) (s : Section ρ) :
    Plan Unit :=
  match Vetted.checkAll format s.records with
  | .error e => .error e
  | .ok () =>
    match r.load store s with
    | .error e => .error (.genesis e)
    | .ok batch => .ok ((), batch)

/-- Loads a section whose records pass their checks, and the index of the register. -/
def loadVettedPaired [Paired ρ] (r : Register ρ) (format : AddressFormat) (store : Store)
    (s : Section ρ) : Plan Unit :=
  match Vetted.checkAll format s.records with
  | .error e => .error e
  | .ok () =>
    match r.loadPaired store s with
    | (_, .error e) => .error (.genesis e)
    | (batch, .ok ()) => .ok ((), batch)

/-- Writes a record that passes its checks under the id that its pair or it has, or under a new
one.  An id that it brings along must be in use.  `settled` is applied between the checks and the
writing. -/
def enter [Paired ρ] (r : Register ρ) (format : AddressFormat) (store : Store) (record : ρ)
    (settled : ρ → ρ) : Plan RecordId :=
  match Vetted.checkFields format record with
  | .error e => .error e
  | .ok () =>
    match (if Record.id record = 0 then .ok true else r.contains store (Record.id record)) with
    | .error e => .error (.register e)
    | .ok false => .error (.register (.notFound (Record.kind ρ) (Record.id record)))
    | .ok true =>
      match r.upsert store (settled record) with
      | .error e => .error (.register e)
      | .ok (record, batch) => .ok (Record.id record, batch)

end Register

end PublicFunds
