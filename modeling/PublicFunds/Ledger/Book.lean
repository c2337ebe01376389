import PublicFunds.Delegation.Basic
import PublicFunds.Disbursement.Totals
import PublicFunds.Scorecard.Basic

/-!
# The books of a ledger

A ledger keeps five books, one for each kind of record, and each book has a store of its own.  What
is the same for all of them is said here once, for a book that is not named.

* `Book.Item`, `Book.register`: what is in a book, and where.
* `Book.Extract`, `Book.extract`, `Book.load`: what a book exports, and loading it.
-/

namespace PublicFunds

/-- A book of a ledger. -/
inductive Book where
  | scorecards
  | budgets
  | procurements
  | disbursements
  | delegations
  deriving DecidableEq, Repr

namespace Book

/-- The books in the order in which they are opened and exported. -/
def all : List Book := [.scorecards, .budgets, .procurements, .disbursements, .delegations]

/-- The name of a book, which is also that of its store. -/
def name : Book → String
  | .scorecards => "scorecards"
  | .budgets => "budgets"
  | .procurements => "procurements"
  | .disbursements => "disbursements"
  | .delegations => "delegations"

/-- The name of the file in which a node keeps a book. -/
def fileName (b : Book) : String := FileName.ofStore b.name

theorem mem_all (b : Book) : b ∈ all := by cases b <;> decide

/-- What a book holds. -/
abbrev Item : Book → Type
  | .scorecards => Scorecard
  | .budgets => Budget
  | .procurements => Procurement
  | .disbursements => Disbursement
  | .delegations => Delegation

instance (b : Book) : DecidableEq b.Item :=
  match b with
  | .scorecards => inferInstanceAs (DecidableEq Scorecard)
  | .budgets => inferInstanceAs (DecidableEq Budget)
  | .procurements => inferInstanceAs (DecidableEq Procurement)
  | .disbursements => inferInstanceAs (DecidableEq Disbursement)
  | .delegations => inferInstanceAs (DecidableEq Delegation)

instance (b : Book) : Record b.Item :=
  match b with
  | .scorecards => inferInstanceAs (Record Scorecard)
  | .budgets => inferInstanceAs (Record Budget)
  | .procurements => inferInstanceAs (Record Procurement)
  | .disbursements => inferInstanceAs (Record Disbursement)
  | .delegations => inferInstanceAs (Record Delegation)

instance (b : Book) : Vetted b.Item :=
  match b with
  | .scorecards => inferInstanceAs (Vetted Scorecard)
  | .budgets => inferInstanceAs (Vetted Budget)
  | .procurements => inferInstanceAs (Vetted Procurement)
  | .disbursements => inferInstanceAs (Vetted Disbursement)
  | .delegations => inferInstanceAs (Vetted Delegation)

/-- Where the records of a book are in its store. -/
def register : (b : Book) → Register b.Item
  | .scorecards => Scorecard.register
  | .budgets => Budget.register
  | .procurements => Procurement.register
  | .disbursements => Disbursement.register
  | .delegations => Delegation.register

/-- The pair that a record is unique under, in a book that has an index. -/
def pair? : (b : Book) → b.Item → Option PairKey
  | .scorecards, card => some (Paired.pair (card : Scorecard))
  | .delegations, d => some (Paired.pair (d : Delegation))
  | .budgets, _ => none
  | .procurements, _ => none
  | .disbursements, _ => none

/-! ## Exporting and loading -/

/-- What a book exports. -/
abbrev Extract : Book → Type
  | .scorecards => Section Scorecard
  | .budgets => Section Budget
  | .procurements => Section Procurement
  | .disbursements => DisbursementSection
  | .delegations => Section Delegation

/-- How an export of a book is shown. -/
def extractForm : (b : Book) → Form b.Extract
  | .scorecards => Section.form Scorecard.form
  | .budgets => Section.form Budget.form
  | .procurements => Section.form Procurement.form
  | .disbursements => DisbursementSection.form
  | .delegations => Section.form Delegation.form

/-- The records in an export. -/
def recordsOf : (b : Book) → b.Extract → List b.Item
  | .scorecards, s => s.records
  | .budgets, s => s.records
  | .procurements, s => s.records
  | .disbursements, s => s.records
  | .delegations, s => s.records

/-- The last id in an export. -/
def countOf : (b : Book) → b.Extract → UInt64
  | .scorecards, s => s.count
  | .budgets, s => s.count
  | .procurements, s => s.count
  | .disbursements, s => s.count
  | .delegations, s => s.count

/-- Everything that a book holds. -/
def extract : (b : Book) → Store → Except RegisterError b.Extract
  | .scorecards, store => Scorecard.register.extract store
  | .budgets, store => Budget.register.extract store
  | .procurements, store => Procurement.register.extract store
  | .disbursements, store => Disbursement.extract store
  | .delegations, store => Delegation.register.extract store

/-- Loads an export into a book that was never used. -/
def load : (b : Book) → AddressFormat → Store → b.Extract → Plan Unit
  | .scorecards, format, store, s => Scorecard.register.loadVettedPaired format store s
  | .budgets, format, store, s => Budget.register.loadVetted format store s
  | .procurements, format, store, s => Procurement.register.loadVetted format store s
  | .disbursements, format, store, s => Disbursement.load format store s
  | .delegations, format, store, s => Delegation.register.loadVettedPaired format store s

end Book

end PublicFunds
