import PublicFunds.OrderedMap
import PublicFunds.Register.Vetted

/-!
# Scorecards

A scorecard rates a subject, usually the address of an officer, under one metric.  There is one
scorecard for a subject and a metric; rating them again replaces it.  Scorecards are what approvals
are backed by.

* `Scorecard.upsert`: rates a subject.
* `Scoreboard`: scorecards outside a store.
-/

namespace PublicFunds

/-- The rating of a subject under a metric. -/
structure Scorecard where
  id : RecordId
  subject : String
  metric : String
  score : UInt32
  weight : UInt32
  evidenceUri : String
  updatedBy : String
  deriving DecidableEq, Repr

namespace Scorecard

/-- The highest score. -/
def highest : UInt32 := 100

/-- A rating that has not been entered yet. -/
def rated (subject metric : String) (score : UInt32) : Scorecard :=
  ⟨0, subject, metric, score, 1, "", ""⟩

/-- How scorecards are stored and shown. -/
def form : Form Scorecard :=
  (Fields.field "id" .word64 <| .field "subject" .text <| .field "metric" .text <|
    .field "score" .word32 <| .field "weight" .word32 <| .field "evidence_uri" .text <|
    .field "updated_by" .text .nil).form.iso
    (fun c => (c.id, c.subject, c.metric, c.score, c.weight, c.evidenceUri, c.updatedBy, ()))
    (fun (id, subject, metric, score, weight, evidenceUri, updatedBy, ()) =>
      ⟨id, subject, metric, score, weight, evidenceUri, updatedBy⟩)

instance : Record Scorecard where
  kind := "scorecard"
  form := form
  id := id
  withId c id := { c with id }
  id_withId _ _ := rfl
  withId_id _ := rfl
  withId_withId _ _ _ := rfl

instance : Paired Scorecard where
  pair c := .of c.subject c.metric
  pair_withId _ _ := rfl

/-- A scorecard is unique under its subject and metric. -/
@[simp] theorem pair_eq (c : Scorecard) : Paired.pair c = .of c.subject c.metric := rfl

/-- The rules about the fields of a scorecard. -/
def checkFields (format : AddressFormat) (c : Scorecard) : Except RecordError Unit :=
  let defect := RecordError.invalid (Record.kind Scorecard)
  Check.all [
    Check.require (!Text.isBlank c.subject) (defect (.missing "subject")),
    Check.require (!Text.isBlank c.metric) (defect (.missing "metric")),
    Check.require (c.score ≤ highest) (defect (.scoreTooHigh highest c.score)),
    Check.require (c.weight != 0) (defect (.notPositive "weight")),
    Check.require (!Text.isBlank c.updatedBy) (defect (.missing "updated_by")),
    (format.check c.updatedBy).mapError (.badAddress (Record.kind Scorecard) "updated_by")]

instance : Vetted Scorecard where
  idField := "scorecard id"
  checkFields := checkFields

/-- Where scorecards are in their store. -/
def register : Register Scorecard := ⟨1, 2, some 3⟩

/-- Rates a subject. -/
def upsert (format : AddressFormat) (store : Store) (c : Scorecard) : Plan RecordId :=
  register.enter format store c fun c => c

end Scorecard

/-- Scorecards by id, outside a store. -/
abbrev Scoreboard := OrderedMap RecordId Scorecard

namespace Scoreboard

/-- The id that a scorecard without one is given. -/
def nextId (board : Scoreboard) : RecordId :=
  match board.last? with
  | none => 1
  | some (id, _) => id + 1

/-- Puts a scorecard under its id, or under the next one; the answer is the id. -/
def put (board : Scoreboard) (c : Scorecard) : RecordId × Scoreboard :=
  let c := if c.id = 0 then { c with id := board.nextId } else c
  (c.id, board.insert c.id c)

/-- The scorecards of a list, put in one after the other. -/
def ofList (cards : List Scorecard) : Scoreboard :=
  cards.foldl (fun board c => (board.put c).2) .empty

/-- The first scorecard with a pair. -/
def findByPair (board : Scoreboard) (pair : PairKey) : Option Scorecard :=
  board.values.find? fun c => Paired.pair c == pair

end Scoreboard

/-- Where scorecards are looked up by id. -/
abbrev ScoreSource := RecordId → Except RegisterError (Option Scorecard)

/-- Scorecards in a store. -/
def Scorecard.source (store : Store) : ScoreSource := Scorecard.register.find store

/-- Scorecards outside a store. -/
def Scoreboard.source (board : Scoreboard) : ScoreSource := fun id => .ok (board.get? id)

end PublicFunds
