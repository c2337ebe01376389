import PublicFunds.Json.Reader
import PublicFunds.Ledger.Book

/-!
# Genesis documents

A genesis document holds everything that a ledger knows, one section for each book, so that a
ledger can start from where another one stopped.  A section that is left out is one of a book that
was never used.

* `Genesis.read`, `Genesis.text`: the document as a file.
-/

namespace PublicFunds

/-- The exports of all books of a ledger. -/
structure Genesis where
  scorecards : Section Scorecard
  budgets : Section Budget
  procurements : Section Procurement
  disbursements : DisbursementSection
  delegations : Section Delegation
  deriving DecidableEq, Repr

namespace Genesis

/-- The genesis of a ledger that was never used. -/
def empty : Genesis := ⟨.empty, .empty, .empty, .empty, .empty⟩

instance : Inhabited Genesis := ⟨empty⟩

/-- How genesis documents are shown. -/
def form : Form Genesis :=
  (Fields.optional "scorecards" (Section.form Scorecard.form) .empty <|
    .optional "budgets" (Section.form Budget.form) .empty <|
    .optional "procurements" (Section.form Procurement.form) .empty <|
    .optional "disbursements" DisbursementSection.form .empty <|
    .optional "delegations" (Section.form Delegation.form) .empty .nil).form.iso
    (fun g => (g.scorecards, g.budgets, g.procurements, g.disbursements, g.delegations, ()))
    (fun (scorecards, budgets, procurements, disbursements, delegations, ()) =>
      ⟨scorecards, budgets, procurements, disbursements, delegations⟩)

/-- The section of a book. -/
def extract (g : Genesis) : (b : Book) → b.Extract
  | .scorecards => g.scorecards
  | .budgets => g.budgets
  | .procurements => g.procurements
  | .disbursements => g.disbursements
  | .delegations => g.delegations

/-- How many records there are in all sections together. -/
def recordCount (g : Genesis) : Nat :=
  Book.all.foldl (fun n b => n + (b.recordsOf (g.extract b)).length) 0

/-- Whether there is no record, and no id was ever given out. -/
def isEmpty (g : Genesis) : Bool :=
  g.recordCount == 0 && Book.all.all fun b => b.countOf (g.extract b) == 0

/-- The document in a file. -/
def read (file : Bytes) : Option Genesis := (Json.parse file).bind form.ofJson?

/-- The file of a document. -/
def text (g : Genesis) : Bytes := (form.toJson g).pretty

end Genesis

end PublicFunds
