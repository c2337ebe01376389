import PublicFunds.Approval.Quorum
import PublicFunds.Bytes.Decimal
import PublicFunds.Text.Quoted

/-!
# Configurations

A node is configured by variables, each of which has a default.  A number may have blanks around it
and a plus sign in front.  The variables are read in a fixed order and the first that cannot be
read is reported; only after that is the configuration judged as a whole.

* `Configuration.read`: the configuration that some variables describe.
* `Configuration.check`: whether a node can run under it.
-/

namespace PublicFunds

/-- What a node is told when it starts. -/
structure Configuration where
  /-- The directory of the store files; without one the stores are in memory. -/
  dataDirectory : Option String
  policy : Policy
  /-- What is logged. -/
  logLevel : String
  /-- The genesis document that an unused ledger starts from. -/
  genesisFile : Option String
  /-- Where the ledger is exported when the node stops. -/
  exportFile : Option String
  deriving DecidableEq, Repr

/-- What keeps a configuration from being one. -/
inductive ConfigurationError where
  /-- The quorum is none. -/
  | invalidQuorum (fault : QuorumFault)
  /-- Addresses would have no bytes. -/
  | zeroAddressLength
  /-- The log level is blank. -/
  | emptyLogLevel
  /-- A variable should be a number, and one in range. -/
  | invalidVariable (name value : String)
  deriving DecidableEq, Repr

/-- The account of an error. -/
def ConfigurationError.message : ConfigurationError → String
  | .invalidQuorum fault => "invalid quorum configuration: " ++ fault.message
  | .zeroAddressLength => "address byte length must be greater than zero"
  | .emptyLogLevel => "log level must not be empty"
  | .invalidVariable name value => s!"cannot parse {name}=" ++ Text.quoted value

namespace Configuration

/-- The defaults. -/
def standard : Configuration := ⟨none, .standard, "info", none, none⟩

/-- The same configuration with the stores in memory. -/
def inMemory (config : Configuration) : Configuration := { config with dataDirectory := none }

/-- Whether a node can run under a configuration. -/
def check (config : Configuration) : Except ConfigurationError Unit :=
  Check.all [
    config.policy.quorum.check.mapError .invalidQuorum,
    Check.require (config.policy.addresses.byteLength != 0) .zeroAddressLength,
    Check.require (!Text.isBlank config.logLevel) .emptyLogLevel]

/-- The variables that a configuration is read from. -/
def variableNames : List String :=
  ["TC_DATA_DIR", "TC_MIN_APPROVALS", "TC_MIN_SCORE", "TC_ADDRESS_PREFIX", "TC_ADDRESS_BYTES",
    "TC_LOG_LEVEL", "RUST_LOG", "TC_GENESIS_FILE", "TC_EXPORT_FILE"]

/-- A plus sign is dropped. -/
def dropPlus : List Char → List Char
  | '+' :: rest => rest
  | cs => cs

/-- The number below a limit that the value of a variable is. -/
def number? (limit : Nat) (value : String) : Option Nat :=
  match Decimal.value? (Utf8.encode (dropPlus (Text.trimChars value.toList))) with
  | none => none
  | some n => if n < limit then some n else none

/-- The number that a variable says, or the default. -/
def number (lookup : String → Option String) (name : String) (limit default : Nat) :
    Except ConfigurationError Nat :=
  match lookup name with
  | none => .ok default
  | some value =>
    match number? limit value with
    | none => .error (.invalidVariable name value)
    | some n => .ok n

/-- The configuration that some variables describe, before it is judged. -/
def describe (lookup : String → Option String) : Except ConfigurationError Configuration :=
  let quorum := standard.policy.quorum
  let addresses := standard.policy.addresses
  match number lookup "TC_MIN_APPROVALS" UInt64.size quorum.minApprovals.toNat with
  | .error e => .error e
  | .ok minApprovals =>
    match number lookup "TC_MIN_SCORE" UInt32.size quorum.minScore.toNat with
    | .error e => .error e
    | .ok minScore =>
      match number lookup "TC_ADDRESS_BYTES" UInt64.size addresses.byteLength with
      | .error e => .error e
      | .ok byteLength =>
        .ok {
          dataDirectory := lookup "TC_DATA_DIR"
          policy := {
            addresses := ⟨(lookup "TC_ADDRESS_PREFIX").getD addresses.marker, byteLength⟩
            quorum := ⟨UInt64.ofNat minApprovals, UInt32.ofNat minScore⟩ }
          logLevel := ((lookup "TC_LOG_LEVEL").or (lookup "RUST_LOG")).getD standard.logLevel
          genesisFile := lookup "TC_GENESIS_FILE"
          exportFile := lookup "TC_EXPORT_FILE" }

/-- The configuration that some variables describe. -/
def read (lookup : String → Option String) : Except ConfigurationError Configuration :=
  match describe lookup with
  | .error e => .error e
  | .ok config =>
    match config.check with
    | .error e => .error e
    | .ok () => .ok config

end Configuration

end PublicFunds
