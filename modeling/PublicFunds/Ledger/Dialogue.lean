import PublicFunds.Ledger.Book
import PublicFunds.Register.Dialogue

/-!
# The books in dialogue

The operations of the books, call by call.  What comes from elsewhere is looked up in between: the
budget of a procurement, the procurement of a disbursement.

* `Budget.entering`, `Procurement.entering`, `Disbursement.entering`, `Scorecard.entering`,
  `Delegation.entering`: a new record.
* `Delegation.deactivating`: a delegation given up.
* `Book.loading`: the export of a book.
-/

namespace PublicFunds

open Register (commit)

/-- Rates a subject. -/
def Scorecard.entering (format : AddressFormat) (c : Scorecard) : Dialogue RecordError RecordId :=
  register.entering format c fun c => c

/-- Enters a draft. -/
def Budget.entering (format : AddressFormat) (b : Budget) : Dialogue RecordError RecordId := do
  let b := Governed.fresh b
  .done (checkFields format b)
  let (b, batch) ← (register.askAdd b).mapError .register
  commit batch
  pure b.id

/-- Enters a plan. -/
def Procurement.entering (format : AddressFormat) (budgets : BudgetSource) (p : Procurement) :
    Dialogue RecordError RecordId := do
  let p := Governed.fresh p
  .done (checkFields format p)
  match ← .done ((budgets p.budget).mapError .register) with
  | none => .fail (.budgetMissing p.budget)
  | some _ =>
    let (p, batch) ← (register.askAdd p).mapError .register
    commit batch
    pure p.id

namespace Disbursement

/-- What has been disbursed for a procurement. -/
def askTotal (procurement : RecordId) : Dialogue RegisterError Amount := do
  let total ← totals.askFind procurement
  pure (total.getD .zero)

/-- Enters a disbursement for a procurement. -/
def enteringFor (procurement : Procurement) (d : Disbursement) :
    Dialogue RecordError RecordId := do
  let disbursed ← (askTotal d.procurement).mapError .register
  match totalWithin? disbursed d.amount procurement.amount with
  | none => .fail (.amountExceeded d.procurement d.amount disbursed procurement.amount)
  | some total =>
    let (d, batch) ← (register.askAdd d).mapError .register
    commit (batch ++ [totals.entry d.procurement total])
    pure d.id

/-- Enters a disbursement. -/
def entering (format : AddressFormat) (procurements : ProcurementSource) (d : Disbursement) :
    Dialogue RecordError RecordId := do
  let d := Governed.fresh d
  .done (checkFields format d)
  match ← .done ((procurements d.procurement).mapError .register) with
  | none => .fail (.procurementMissing d.procurement)
  | some procurement => enteringFor procurement d

/-- Loads a section.  The totals that are written are the sums of the records. -/
def loading (format : AddressFormat) (s : DisbursementSection) : Dialogue RecordError Unit := do
  .done (Vetted.checkAll format s.records)
  let sums ← .done (s.recompute.mapError .genesis)
  let batch ← (register.askLoad s.toSection).mapError .genesis
  commit (batch ++ sums.toList.map fun entry => totals.entry entry.1 entry.2)

end Disbursement

namespace Delegation

/-- Delegates. -/
def entering (format : AddressFormat) (d : Delegation) : Dialogue RecordError RecordId :=
  register.entering format d fun d => { d with active := true }

/-- Gives a delegation up.  There is nothing to write if it has been given up before. -/
def deactivating (id : RecordId) : Dialogue RecordError Delegation := do
  let d ← (register.askGet id).mapError .register
  if d.active then
    let d := { d with active := false }
    let batch ← .done ((register.stage d).mapError .register)
    commit batch
    pure d
  else pure d

end Delegation

/-- Loads an export into a book that was never used. -/
def Book.loading : (b : Book) → AddressFormat → b.Extract → Dialogue RecordError Unit
  | .scorecards, format, s => Scorecard.register.loadingVettedPaired format s
  | .budgets, format, s => Budget.register.loadingVetted format s
  | .procurements, format, s => Procurement.register.loadingVetted format s
  | .disbursements, format, s => Disbursement.loading format s
  | .delegations, format, s => Delegation.register.loadingVettedPaired format s

end PublicFunds
