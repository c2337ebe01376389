import PublicFunds.Configuration
import PublicFunds.Ledger.Book

/-!
# Errors of a ledger

A ledger cannot be opened if its configuration is none or a store cannot be read.  Once it is open,
what it is asked to do may be refused; if that was about the ledger as a whole, the error says which
book is to blame.
-/

namespace PublicFunds

/-- Why a ledger cannot be opened, or refuses. -/
inductive LedgerError where
  /-- The configuration is none. -/
  | configuration (cause : ConfigurationError)
  /-- A store cannot be opened. -/
  | storage (fault : StoreFault)
  /-- Something that concerns one book was refused. -/
  | refused (cause : RecordError)
  /-- Something that concerns the whole ledger was refused because of one book. -/
  | book (book : Book) (cause : RecordError)
  deriving DecidableEq, Repr

namespace LedgerError

/-- The class of an error. -/
def errorClass : LedgerError → ErrorClass
  | .configuration _ => .validationError
  | .storage _ => .storage
  | .refused cause => cause.errorClass
  | .book _ cause => cause.errorClass

/-- The account of an error. -/
def message : LedgerError → String
  | .configuration cause => cause.message
  | .storage fault => "storage unavailable: " ++ fault.message
  | .refused cause => cause.message
  | .book b cause => b.name ++ ": " ++ cause.message

instance : Report LedgerError := ⟨errorClass, message⟩

end LedgerError

end PublicFunds
