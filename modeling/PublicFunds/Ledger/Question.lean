import PublicFunds.Ledger.Basic

/-!
# Questions to a ledger

What can be asked about a ledger without changing it: records by id or by pair, all records of a
book in order, what has been disbursed, and whether everything is as it should be.

* `Ledger.ask`: the answer to a question.
-/

namespace PublicFunds

/-- A question to a ledger. -/
inductive Question where
  /-- The record with an id; there has to be one. -/
  | get (b : Book) (id : RecordId)
  /-- The record with an id, if there is one. -/
  | find (b : Book) (id : RecordId)
  /-- Whether there is a record with an id. -/
  | contains (b : Book) (id : RecordId)
  /-- The record with a pair; there has to be one. -/
  | getByPair (b : Book) (pair : PairKey)
  /-- The record with a pair, if there is one. -/
  | findByPair (b : Book) (pair : PairKey)
  /-- The records of a book in the order of their ids, or the first of them. -/
  | walk (b : Book) (limit : Option Nat)
  /-- What has been disbursed for a procurement. -/
  | total (procurement : RecordId)
  /-- Whether the totals are right, as a question to one book. -/
  | verifyTotals
  /-- Whether the totals are right, as a question to the whole ledger. -/
  | verify
  /-- Everything that the ledger holds. -/
  | extract

/-- The answer to a question. -/
inductive Answer where
  | record (b : Book) (record : b.Item)
  | noRecord
  | records (b : Book) (records : List b.Item)
  | flag (b : Bool)
  | amount (a : Amount)
  | genesis (g : Genesis)
  | done

namespace Answer

/-- A record that may be there. -/
def ofOption (b : Book) : Option b.Item → Answer
  | none => .noRecord
  | some r => .record b r

end Answer

namespace Ledger

/-- An answer of a register. -/
def answering {α : Type} (result : Except RegisterError α) (answer : α → Answer) :
    Except LedgerError Answer :=
  match result with
  | .error e => .error (.refused (.register e))
  | .ok value => .ok (answer value)

/-- The answer to a question. -/
def ask (ledger : Ledger) : Question → Except LedgerError Answer
  | .get b id => answering (b.register.get (ledger.store b) id) (.record b)
  | .find b id => answering (b.register.find (ledger.store b) id) (.ofOption b)
  | .contains b id => answering (b.register.contains (ledger.store b) id) .flag
  | .getByPair b pair => answering (b.register.getByPair (ledger.store b) pair) (.record b)
  | .findByPair b pair => answering (b.register.findByPair (ledger.store b) pair) (.ofOption b)
  | .walk b limit => answering (b.register.walkList (ledger.store b) limit) (.records b)
  | .total procurement => answering (Disbursement.total ledger.disbursements procurement) .amount
  | .verifyTotals =>
    match Disbursement.verify ledger.disbursements with
    | .error e => .error (.refused e)
    | .ok () => .ok .done
  | .verify => ledger.verify.map fun () => .done
  | .extract => ledger.extract.map .genesis

end Ledger

end PublicFunds
