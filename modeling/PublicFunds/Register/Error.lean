import PublicFunds.ErrorClass
import PublicFunds.Store.Fault

/-!
# Errors of registers

What a register answers when it cannot do what it is asked: the record is not there, its store
failed, or what is stored is not what belongs there.  Loading a register from an export has errors
of its own, which all mean that the export contradicts itself or the register.

An error names the kind of record that it is about.
-/

namespace PublicFunds

/-- Why a register could not answer or be changed. -/
inductive RegisterError where
  /-- No record has the id. -/
  | notFound (kind : String) (id : UInt64)
  /-- No record is indexed under the key. -/
  | keyNotFound (kind : String) (key : String)
  /-- The store failed. -/
  | store (fault : StoreFault)
  /-- What is stored cannot be read. -/
  | unreadable (kind : String) (account : String)
  /-- A record without an id cannot be written. -/
  | unassigned (kind : String)
  /-- There is no id left. -/
  | exhausted (kind : String)
  /-- The register has no index. -/
  | noIndex (kind : String)
  deriving DecidableEq, Repr

namespace RegisterError

/-- The class of an error. -/
def errorClass : RegisterError → ErrorClass
  | .notFound .. => .notFound
  | .keyNotFound .. => .notFound
  | _ => .storage

/-- The account of an error. -/
def message : RegisterError → String
  | .notFound kind id => s!"{kind} #{id} not found"
  | .keyNotFound kind key => s!"{kind} not found for key {key}"
  | .store fault => "Database error: " ++ fault.message
  | .unreadable kind account => s!"Serialization error for {kind}: {account}"
  | .unassigned kind => s!"{kind} must have an id before it is written"
  | .exhausted kind => s!"{kind} sequence exhausted"
  | .noIndex kind => s!"{kind} collection has no secondary index"

instance : Report RegisterError := ⟨errorClass, message⟩

end RegisterError

/-- Why an export could not be loaded. -/
inductive GenesisError where
  /-- A record has no id. -/
  | zeroId (kind : String)
  /-- Two records have one id. -/
  | duplicateId (kind : String) (id : UInt64)
  /-- An id was never given out. -/
  | idBeyondCount (kind : String) (id count : UInt64)
  /-- Two records, or two totals, have one key. -/
  | duplicateKey (kind : String) (key : String)
  /-- The register is in use. -/
  | notEmpty (kind : String)
  /-- A record would not have been accepted. -/
  | invalidRecord (kind : String) (id : UInt64) (reason : String)
  /-- A total is not the sum of its records. -/
  | totalMismatch (kind : String) (id : UInt64) (exported recomputed : String)
  /-- The register failed. -/
  | register (cause : RegisterError)
  deriving DecidableEq, Repr

namespace GenesisError

/-- The class of an error. -/
def errorClass : GenesisError → ErrorClass
  | .register cause => cause.errorClass
  | _ => .validationError

/-- The account of an error. -/
def message : GenesisError → String
  | .zeroId kind => s!"{kind} genesis contains a record with id 0"
  | .duplicateId kind id => s!"duplicate {kind} id {id} during genesis"
  | .idBeyondCount kind id count => s!"{kind} id {id} exceeds exported sequence {count}"
  | .duplicateKey kind key => s!"duplicate {kind} key {key} during genesis"
  | .notEmpty kind => s!"{kind} store is not empty; genesis import requires an empty store"
  | .invalidRecord kind id reason => s!"invalid {kind} #{id} in genesis: {reason}"
  | .totalMismatch kind id exported recomputed =>
    s!"{kind} genesis total mismatch for #{id}: exported {exported}, recomputed {recomputed}"
  | .register cause => cause.message

instance : Report GenesisError := ⟨errorClass, message⟩

end GenesisError

end PublicFunds
