import PublicFunds.Bytes.Digest
import PublicFunds.Bytes.Hex
import PublicFunds.Text.Quoted
import PublicFunds.Text.Utf8
import PublicFunds.Text.WhiteSpace

/-!
# Addresses

Officers, signers and delegates are named by an address: a fixed marker followed by the
hexadecimal text of a fixed number of bytes.  Blanks around an address do not count, and the
digits may be in either case; the marker must be spelled exactly.

* `AddressFormat.decode`, `AddressFormat.encode`: an address and its bytes.
* `Address.derive`: an address that a seed determines.
-/

namespace PublicFunds

/-- The form that every address of a ledger has. -/
structure AddressFormat where
  /-- What an address starts with. -/
  marker : String
  /-- How many bytes the digits after the marker stand for. -/
  byteLength : Nat
  deriving DecidableEq, Repr

/-- What keeps a text from being an address. -/
inductive AddressFault where
  | empty
  | missingMarker (address marker : String)
  | badHex (address : String) (fault : Hex.Fault)
  | badLength (expected actual : Nat)
  deriving DecidableEq, Repr

/-- The account of a text that is not hexadecimal. -/
def Hex.Fault.message : Hex.Fault → String
  | .oddLength => "Odd number of digits"
  | .badDigit byte position =>
    let shown := Text.quotedChar (Char.ofNat byte.toNat)
    s!"Invalid character {shown} at position {position}"

/-- The account of a text that is not an address. -/
def AddressFault.message : AddressFault → String
  | .empty => "address is empty"
  | .missingMarker address marker => s!"address {address} must start with {marker}"
  | .badHex address fault =>
    let reason := fault.message
    s!"address {address} is not valid hex: {reason}"
  | .badLength expected actual =>
    s!"address must decode to {expected} bytes, got {actual}"

/-- What follows `lead` in a list that starts with it. -/
def after? {α : Type} [DecidableEq α] : List α → List α → Option (List α)
  | [], rest => some rest
  | _ :: _, [] => none
  | a :: lead, b :: rest => if a = b then after? lead rest else none

namespace AddressFormat

/-- A zero, an x and twenty bytes. -/
def standard : AddressFormat := ⟨"0x", 20⟩

/-- The bytes of an address.  Blanks are dropped first; then the marker, the digits and their
number are judged in this order. -/
def decode (format : AddressFormat) (address : String) : Except AddressFault Bytes :=
  let trimmed := Text.trimChars address.toList
  if trimmed = [] then .error .empty
  else
    match after? format.marker.toList trimmed with
    | none => .error (.missingMarker (String.ofList trimmed) format.marker)
    | some payload =>
      match Hex.decode (Utf8.encode payload) with
      | .error fault => .error (.badHex (String.ofList trimmed) fault)
      | .ok raw =>
        if raw.length = format.byteLength then .ok raw
        else .error (.badLength format.byteLength raw.length)

/-- The address of some bytes, if they are as many as the format wants. -/
def encode (format : AddressFormat) (raw : Bytes) : Except AddressFault String :=
  if raw.length = format.byteLength then
    .ok (String.ofList (format.marker.toList ++ Hex.encode raw))
  else .error (.badLength format.byteLength raw.length)

/-- Whether a text is an address. -/
def check (format : AddressFormat) (address : String) : Except AddressFault Unit :=
  match format.decode address with
  | .error fault => .error fault
  | .ok _ => .ok ()

end AddressFormat

namespace Address

/-- The first twenty bytes of the digest of a seed. -/
def deriveRaw (seed : String) : Bytes := (Digest.sha256 (Utf8.bytes seed)).take 20

/-- Bytes cut or filled up with zeros to a length. -/
def fit (length : Nat) (raw : Bytes) : Bytes :=
  raw.take length ++ List.replicate (length - raw.length) 0

/-- The address that a seed determines under a format. -/
def derive (format : AddressFormat) (seed : String) : String :=
  String.ofList (format.marker.toList ++ Hex.encode (fit format.byteLength (deriveRaw seed)))

theorem length_fit (length : Nat) (raw : Bytes) : (fit length raw).length = length := by
  simp only [fit, List.length_append, List.length_take, List.length_replicate]
  omega

/-- A derived address is the encoding of its bytes. -/
theorem encode_fit (format : AddressFormat) (seed : String) :
    format.encode (fit format.byteLength (deriveRaw seed)) = .ok (derive format seed) := by
  simp [AddressFormat.encode, length_fit, derive]

end Address

end PublicFunds
