/-!
# Faults of a store

A store can fail in two ways: the place that it lives in refuses, or what is found there is not a
store.  The account of a refusal is the operating system's own.
-/

namespace PublicFunds

/-- Why a store could not be read or written. -/
inductive StoreFault where
  /-- The operating system refused. -/
  | unavailable (account : String)
  /-- A file ends inside the length of a key or value that starts at an offset. -/
  | truncatedLength (offset : Nat)
  /-- A file ends inside the key or value that starts at an offset. -/
  | truncatedEntry (offset : Nat)
  /-- The contents are damaged in some other way. -/
  | damaged (account : String)
  deriving DecidableEq, Repr

namespace StoreFault

/-- The account of a fault. -/
def message : StoreFault → String
  | .unavailable account => s!"KV store I/O error: {account}"
  | .truncatedLength offset => s!"KV store corruption: truncated length at offset {offset}"
  | .truncatedEntry offset => s!"KV store corruption: truncated entry at offset {offset}"
  | .damaged account => s!"KV store corruption: {account}"

end StoreFault

end PublicFunds
