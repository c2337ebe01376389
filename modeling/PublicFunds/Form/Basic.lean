import PublicFunds.Amount
import PublicFunds.Bytes.Decimal
import PublicFunds.Json.Text

/-!
# Forms of values

Every value that the ledger keeps has two outside forms: the bytes that it is stored as, and the
JSON value that stands for it in a document.  Both are built from the same parts in the same order,
so a form gives the two together, with a reader for each.

Stored bytes carry no names and no end marks.  A reader takes what it needs from the front and
leaves the rest, so whatever follows a value cannot change what is read.

* `Form.word64`, `Form.word32`, `Form.flag`, `Form.text`, `Form.amount`, `Form.choice`: the forms
  of single values.
* `Form.list`: values of one kind behind their number.
* `Form.iso`: the form of a type that is another type by other names.
-/

namespace PublicFunds

/-- What keeps bytes from being a stored value. -/
inductive FormFault where
  /-- The bytes end before a number, a truth value or the length of a text does. -/
  | endOfBytes
  /-- The bytes end before a text does. -/
  | cutText
  /-- A text is not UTF-8. -/
  | badText (fault : Utf8.Fault)
  /-- A truth value is neither zero nor one. -/
  | badFlag (byte : UInt8)
  /-- There are fewer alternatives. -/
  | badChoice (index count : Nat)
  /-- The text of an amount is none. -/
  | badAmount (fault : Amount.Fault)
  deriving DecidableEq, Repr

namespace Amount.Fault

/-- The account of a text that is not an amount.  A byte is shown as the character that has its
value for a code point. -/
def message : Amount.Fault → String
  | .badLength digits =>
    s!"invalid length {digits}, expected a (both 0x-prefixed or not) hex string or byte array " ++
      "containing between (0; 32] bytes"
  | .badDigit byte position =>
    let shown := Char.ofNat byte.toNat
    s!"invalid hex character: {shown}, at {position}"

end Amount.Fault

namespace FormFault

/-- The account of bytes that are not a stored value. -/
def message : FormFault → String
  | .endOfBytes => "io error: unexpected end of file"
  | .cutText => "io error: "
  | .badText fault => "string is not valid utf8: " ++ fault.message
  | .badFlag byte => s!"invalid u8 while decoding bool, expected 0 or 1, found {byte.toNat}"
  | .badChoice index count =>
    "invalid value: integer `" ++ toString index ++ "`, expected variant index 0 <= i < " ++
      toString count
  | .badAmount fault => fault.message

end FormFault

/-- How the values of a type are stored, and how they stand in documents. -/
structure Form (α : Type) where
  /-- The stored bytes. -/
  encode : α → Bytes
  /-- The value at the front of some bytes, and the bytes after it. -/
  decode : Bytes → Except FormFault (α × Bytes)
  /-- The JSON value. -/
  toJson : α → Json
  /-- The value that a JSON value stands for. -/
  ofJson? : Json → Option α

namespace Form

variable {α β : Type}

/-! ## Numbers and truth values -/

/-- Takes a number of some width from the front. -/
def takeNumber (width : Nat) (bs : Bytes) : Except FormFault (Nat × Bytes) :=
  match bs.cut? width with
  | none => .error .endOfBytes
  | some (digits, rest) => .ok (Bytes.ofLittle digits, rest)

theorem takeNumber_little {width n : Nat} (h : n < Bytes.reach width) (rest : Bytes) :
    takeNumber width (Bytes.little width n ++ rest) = .ok (n, rest) := by
  have hcut := Bytes.cut?_append (Bytes.little width n) rest
  rw [Bytes.length_little] at hcut
  rw [takeNumber, hcut]
  simp only [Bytes.ofLittle_little, Nat.mod_eq_of_lt h]

/-- The number that a JSON value is, if it is written without sign, fraction and exponent. -/
def natural? : Json → Option Nat
  | .number digits => Decimal.value? digits
  | _ => none

/-- A number of eight bytes. -/
def word64 : Form UInt64 where
  encode n := Bytes.little 8 n.toNat
  decode bs := (takeNumber 8 bs).map fun parts => (UInt64.ofNat parts.1, parts.2)
  toJson n := .number (Decimal.digits n.toNat)
  ofJson? j := (natural? j).bind fun n => if n < UInt64.size then some (UInt64.ofNat n) else none

/-- A number of four bytes. -/
def word32 : Form UInt32 where
  encode n := Bytes.little 4 n.toNat
  decode bs := (takeNumber 4 bs).map fun parts => (UInt32.ofNat parts.1, parts.2)
  toJson n := .number (Decimal.digits n.toNat)
  ofJson? j := (natural? j).bind fun n => if n < UInt32.size then some (UInt32.ofNat n) else none

/-- A truth value. -/
def flag : Form Bool where
  encode b := [if b then 1 else 0]
  decode
    | [] => .error .endOfBytes
    | byte :: rest =>
      if byte = 0 then .ok (false, rest)
      else if byte = 1 then .ok (true, rest)
      else .error (.badFlag byte)
  toJson b := .flag b
  ofJson?
    | .flag b => some b
    | _ => none

/-! ## Texts and amounts -/

/-- Takes a text and its length from the front. -/
def takeText (bs : Bytes) : Except FormFault (Bytes × Bytes) :=
  match takeNumber 8 bs with
  | .error fault => .error fault
  | .ok (length, rest) =>
    match rest.cut? length with
    | none => .error .cutText
    | some parts => .ok parts

/-- A text behind its length. -/
def textBytes (bs : Bytes) : Bytes := Bytes.little 8 bs.length ++ bs

/-- A text. -/
def text : Form String where
  encode s := textBytes (Utf8.bytes s)
  decode bs :=
    match takeText bs with
    | .error fault => .error fault
    | .ok (body, rest) =>
      match Utf8.text body with
      | .error fault => .error (.badText fault)
      | .ok s => .ok (s, rest)
  toJson := Json.ofText
  ofJson? := Json.text?

/-- An amount, which is stored and shown as its text. -/
def amount : Form Amount where
  encode a := textBytes (Utf8.encode a.text)
  decode bs :=
    match takeText bs with
    | .error fault => .error fault
    | .ok (body, rest) =>
      match Utf8.decode body with
      | .error fault => .error (.badText fault)
      | .ok _ =>
        match Amount.read body with
        | .error fault => .error (.badAmount fault)
        | .ok a => .ok (a, rest)
  toJson a := .string (Utf8.encode a.text)
  ofJson? j :=
    match j.text? with
    | none => none
    | some s =>
      match Amount.read (Utf8.bytes s) with
      | .error _ => none
      | .ok a => some a

/-! ## Alternatives -/

/-- The name of an alternative.  It may also stand as the name of an object's only field, whose
value says nothing. -/
def choiceName? : Json → Option String
  | .string body => Json.bodyText? body
  | .object [(name, .null)] => Json.bodyText? name
  | _ => none

/-- One of some alternatives, stored as its place among them and shown by its name. -/
def choice [DecidableEq α] (all : List α) (name : α → String) : Form α where
  encode a := Bytes.little 4 (all.idxOf a)
  decode bs :=
    match takeNumber 4 bs with
    | .error fault => .error fault
    | .ok (index, rest) =>
      match all[index]? with
      | none => .error (.badChoice index all.length)
      | some a => .ok (a, rest)
  toJson a := Json.ofText (name a)
  ofJson? j := (choiceName? j).bind fun s => all.find? fun a => name a == s

/-! ## Lists and renamings -/

/-- Takes a number of values from the front. -/
def takeMany (form : Form α) : Nat → Bytes → Except FormFault (List α × Bytes)
  | 0, bs => .ok ([], bs)
  | n + 1, bs =>
    match form.decode bs with
    | .error fault => .error fault
    | .ok (a, rest) =>
      match takeMany form n rest with
      | .error fault => .error fault
      | .ok (as, rest) => .ok (a :: as, rest)

/-- The values that some JSON values stand for. -/
def ofItems? (form : Form α) : List Json → Option (List α)
  | [] => some []
  | item :: rest =>
    match form.ofJson? item, ofItems? form rest with
    | some a, some as => some (a :: as)
    | _, _ => none

/-- Some values behind their number. -/
def list (form : Form α) : Form (List α) where
  encode as := Bytes.little 8 as.length ++ as.flatMap form.encode
  decode bs :=
    match takeNumber 8 bs with
    | .error fault => .error fault
    | .ok (count, rest) => takeMany form count rest
  toJson as := .array (as.map form.toJson)
  ofJson?
    | .array items => ofItems? form items
    | _ => none

/-- The form of a type through another one. -/
def iso (form : Form α) (toα : β → α) (ofα : α → β) : Form β where
  encode b := form.encode (toα b)
  decode bs := (form.decode bs).map fun parts => (ofα parts.1, parts.2)
  toJson b := form.toJson (toα b)
  ofJson? j := (form.ofJson? j).map ofα

end Form

end PublicFunds
