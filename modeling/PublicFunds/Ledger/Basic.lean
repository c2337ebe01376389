import PublicFunds.Ledger.Dialogue
import PublicFunds.Ledger.Error
import PublicFunds.Ledger.Genesis

/-!
# Ledgers

A ledger is a policy and the stores of five books.  The books depend on each other: scorecards back
the approvals in three of them, a procurement needs a budget, and a disbursement a procurement.

A genesis document is loaded as a whole or not at all.  Each section goes into a store of its own,
so the document is first loaded into a ledger in memory; only if that accepts every section is any
store of this ledger written.

* `Ledger.inMemory`, `Ledger.onFiles`, `Ledger.reopen`: opening a ledger.
* `Ledger.extract`, `Ledger.load`: the genesis document of a ledger, and a ledger from one.
* `Ledger.verify`: whether the disbursed totals are right.
-/

namespace PublicFunds

/-- A policy and the stores of five books. -/
structure Ledger where
  policy : Policy
  scorecards : Store
  budgets : Store
  procurements : Store
  disbursements : Store
  delegations : Store

/-- Where an operation looks up records of other books. -/
structure Sources where
  scores : ScoreSource
  budgets : BudgetSource
  procurements : ProcurementSource

namespace Ledger

/-- The store of a book. -/
def store (ledger : Ledger) : Book → Store
  | .scorecards => ledger.scorecards
  | .budgets => ledger.budgets
  | .procurements => ledger.procurements
  | .disbursements => ledger.disbursements
  | .delegations => ledger.delegations

/-- The ledger with another store for a book. -/
def withStore (ledger : Ledger) (b : Book) (store : Store) : Ledger :=
  match b with
  | .scorecards => { ledger with scorecards := store }
  | .budgets => { ledger with budgets := store }
  | .procurements => { ledger with procurements := store }
  | .disbursements => { ledger with disbursements := store }
  | .delegations => { ledger with delegations := store }

@[simp] theorem store_withStore_self (ledger : Ledger) (b : Book) (s : Store) :
    (ledger.withStore b s).store b = s := by
  cases b <;> rfl

theorem store_withStore_of_ne (ledger : Ledger) {b c : Book} (h : c ≠ b) (s : Store) :
    (ledger.withStore b s).store c = ledger.store c := by
  cases b <;> cases c <;> first | rfl | exact absurd rfl h

@[simp] theorem policy_withStore (ledger : Ledger) (b : Book) (s : Store) :
    (ledger.withStore b s).policy = ledger.policy := by
  cases b <;> rfl

/-- Two ledgers with one policy and the same stores are one. -/
theorem ext_store {l m : Ledger} (policy : l.policy = m.policy)
    (stores : ∀ b, l.store b = m.store b) : l = m := by
  cases l
  cases m
  cases policy
  cases stores .scorecards
  cases stores .budgets
  cases stores .procurements
  cases stores .disbursements
  cases stores .delegations
  rfl

/-- The records of a ledger as the books look them up for each other. -/
def sources (ledger : Ledger) : Sources where
  scores := Scorecard.source ledger.scorecards
  budgets := Budget.source ledger.budgets
  procurements := Procurement.source ledger.procurements

/-! ## Opening -/

/-- An unused ledger in memory. -/
def inMemory (policy : Policy) : Ledger :=
  ⟨policy, .inMemory, .inMemory, .inMemory, .inMemory, .inMemory⟩

/-- Opens the stores of some books, in order, each in its own way. -/
def openBooks (opening : Book → Except StoreFault Store) (ledger : Ledger) :
    List Book → Except StoreFault Ledger
  | [] => .ok ledger
  | b :: rest =>
    match opening b with
    | .error fault => .error fault
    | .ok store => openBooks opening (ledger.withStore b store) rest

/-- A ledger whose stores are opened in some way. -/
def opened (policy : Policy) (opening : Book → Except StoreFault Store) :
    Except LedgerError Ledger :=
  (openBooks opening (inMemory policy) Book.all).mapError .storage

/-- A ledger on files, each of which may be missing or refuse to be read. -/
def onFiles (policy : Policy) (files : Book → Except StoreFault (Option Bytes)) :
    Except LedgerError Ledger :=
  opened policy fun b =>
    match files b with
    | .error fault => .error fault
    | .ok file => Store.openOn (.holding b.fileName file)

/-- The ledger after closing and opening it. -/
def reopen (ledger : Ledger) : Except LedgerError Ledger :=
  opened ledger.policy fun b => (ledger.store b).reopen

/-- A ledger for a node.  The files only count if the configuration names a directory. -/
def start (config : Configuration) (files : Book → Except StoreFault (Option Bytes)) :
    Except LedgerError Ledger :=
  match config.check with
  | .error e => .error (.configuration e)
  | .ok () =>
    match config.dataDirectory with
    | none => .ok (inMemory config.policy)
    | some _ => onFiles config.policy files

/-! ## The ledger as a whole -/

/-- The section of one book. -/
def extractBook (ledger : Ledger) (b : Book) : Except LedgerError b.Extract :=
  (b.extract (ledger.store b)).mapError fun e => .book b (.register e)

/-- The genesis document that describes a ledger. -/
def extract (ledger : Ledger) : Except LedgerError Genesis :=
  match ledger.extractBook .scorecards with
  | .error e => .error e
  | .ok scorecards =>
    match ledger.extractBook .budgets with
    | .error e => .error e
    | .ok budgets =>
      match ledger.extractBook .procurements with
      | .error e => .error e
      | .ok procurements =>
        match ledger.extractBook .disbursements with
        | .error e => .error e
        | .ok disbursements =>
          match ledger.extractBook .delegations with
          | .error e => .error e
          | .ok delegations =>
            .ok ⟨scorecards, budgets, procurements, disbursements, delegations⟩

/-- Whether no book was ever used. -/
def isEmpty (ledger : Ledger) : Except LedgerError Bool := ledger.extract.map Genesis.isEmpty

/-- Whether the disbursed totals are the sums of the disbursements. -/
def verify (ledger : Ledger) : Except LedgerError Unit :=
  (Disbursement.verify ledger.disbursements).mapError (.book .disbursements)

/-- Loads the section of one book. -/
def loadBook (ledger : Ledger) (g : Genesis) (b : Book) : Except LedgerError Unit × Ledger :=
  match Store.backend.hold (b.loading ledger.policy.addresses (g.extract b)) (ledger.store b) with
  | (.error e, store) => (.error (.book b e), ledger.withStore b store)
  | (.ok (), store) => (.ok (), ledger.withStore b store)

/-- Loads the sections of some books in order, up to the first that is refused. -/
def loadBooks (ledger : Ledger) (g : Genesis) : List Book → Except LedgerError Unit × Ledger
  | [] => (.ok (), ledger)
  | b :: rest =>
    match ledger.loadBook g b with
    | (.error e, ledger) => (.error e, ledger)
    | (.ok (), ledger) => loadBooks ledger g rest

/-- Loads a genesis document, after rehearsing it in memory. -/
def load (ledger : Ledger) (g : Genesis) : Except LedgerError Unit × Ledger :=
  match ((inMemory ledger.policy).loadBooks g Book.all).1 with
  | .error e => (.error e, ledger)
  | .ok () => ledger.loadBooks g Book.all

end Ledger

end PublicFunds
