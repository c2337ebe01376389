import PublicFunds.Ledger.Basic
import PublicFunds.Node.Files

/-!
# Nodes

A node runs a ledger.  When it starts it loads the genesis document that it is configured with,
unless the ledger has been used before, and then makes sure that the disbursed totals are right.
When it stops it exports the ledger, if it is told where to.

A ledger that has been used keeps what it holds, whatever the genesis file says by now; it need not
even be there.

* `Node.start`, `Node.stop`: the two ends of a run.
-/

namespace PublicFunds

/-- A configuration and the ledger that is run under it. -/
structure Node where
  config : Configuration
  ledger : Ledger

/-- Why a node does not start, or cannot stop properly. -/
inductive NodeError where
  /-- A file cannot be read or written. -/
  | fileUnavailable (path : String)
  /-- A file holds no genesis document. -/
  | badDocument (path : String)
  /-- The ledger cannot be opened. -/
  | opening (cause : LedgerError)
  /-- The ledger does not accept the genesis document. -/
  | loading (path : String) (cause : LedgerError)
  /-- The totals are not right, or cannot be checked. -/
  | verifying (cause : LedgerError)
  /-- The ledger cannot be exported. -/
  | exporting (cause : LedgerError)
  deriving DecidableEq, Repr

namespace NodeError

/-- The error of the ledger behind an error, if there is one. -/
def cause? : NodeError → Option LedgerError
  | .fileUnavailable _ => none
  | .badDocument _ => none
  | .opening cause => some cause
  | .loading _ cause => some cause
  | .verifying cause => some cause
  | .exporting cause => some cause

/-- The account of an error. -/
def message : NodeError → String
  | .fileUnavailable path => s!"cannot access genesis file {path}"
  | .badDocument path => s!"malformed genesis file {path}"
  | .opening cause => "Failed to initialize keepers: " ++ cause.message
  | .loading path cause => s!"Failed to import genesis {path}: " ++ cause.message
  | .verifying cause =>
    "Disbursed totals disagree with disbursement records: " ++ cause.message
  | .exporting cause => cause.message

end NodeError

namespace Node

/-- A node whose ledger is opened but has not started. -/
def create (config : Configuration) (stores : Book → Except StoreFault (Option Bytes)) :
    Except NodeError Node :=
  match Ledger.start config stores with
  | .error e => .error (.opening e)
  | .ok ledger => .ok ⟨config, ledger⟩

/-- Loads a genesis file into an unused ledger. -/
def loadFile (node : Node) (files : Files) (path : String) : Except NodeError Unit × Node :=
  match files.read? path with
  | none => (.error (.fileUnavailable path), node)
  | some contents =>
    match Genesis.read contents with
    | none => (.error (.badDocument path), node)
    | some g =>
      match node.ledger.load g with
      | (.error e, ledger) => (.error (.loading path e), { node with ledger })
      | (.ok (), ledger) => (.ok (), { node with ledger })

/-- Loads the genesis file of the configuration, if there is one and the ledger is unused. -/
def loadGenesis (node : Node) (files : Files) : Except NodeError Unit × Node :=
  match node.config.genesisFile with
  | none => (.ok (), node)
  | some path =>
    match node.ledger.isEmpty with
    | .error e => (.error (.exporting e), node)
    | .ok false => (.ok (), node)
    | .ok true => node.loadFile files path

/-- Starts a node. -/
def start (node : Node) (files : Files) : Except NodeError Unit × Node :=
  match node.loadGenesis files with
  | (.error e, node) => (.error e, node)
  | (.ok (), node) => (node.ledger.verify.mapError .verifying, node)

/-- Stops a node: the files after the export. -/
def stop (node : Node) (files : Files) : Except NodeError Files :=
  match node.config.exportFile with
  | none => .ok files
  | some path =>
    match node.ledger.extract with
    | .error e => .error (.exporting e)
    | .ok g =>
      match files.write? path g.text with
      | none => .error (.fileUnavailable path)
      | some files => .ok files

end Node

end PublicFunds
