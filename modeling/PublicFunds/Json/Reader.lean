import PublicFunds.Json.Token

/-!
# Reading a JSON text

The structure of a text is found by going through its tokens once.  What has been opened and not
yet closed is kept on a stack, so values may be nested to any depth, and the reader always knows
which tokens may come next.

* `Json.parse`: the value of a text that is one value and nothing else.
-/

namespace PublicFunds

namespace Json

/-- A list or object that has been opened; what it holds so far is in reverse order. -/
inductive Frame where
  | items (sofar : List Json)
  | fields (sofar : List (Bytes × Json))
  /-- An object with a name whose value is being read. -/
  | member (sofar : List (Bytes × Json)) (name : Bytes)

/-- What may come next. -/
inductive Expect where
  /-- A value. -/
  | value
  /-- A value, or the end of the list that has just been opened. -/
  | firstItem
  /-- A name. -/
  | name
  /-- A name, or the end of the object that has just been opened. -/
  | firstName
  /-- The colon behind a name. -/
  | colon (name : Bytes)
  /-- A comma, or the end of what is open. -/
  | divider
  /-- Nothing: the value is complete. -/
  | finish (value : Json)

/-- Where the reader is. -/
structure Reader where
  expect : Expect
  opened : List Frame

namespace Reader

/-- Before the first token. -/
def start : Reader := ⟨.value, []⟩

/-- Puts a complete value where it belongs. -/
def accept (value : Json) : List Frame → Option Reader
  | [] => some ⟨.finish value, []⟩
  | .items sofar :: opened => some ⟨.divider, .items (value :: sofar) :: opened⟩
  | .member sofar name :: opened => some ⟨.divider, .fields ((name, value) :: sofar) :: opened⟩
  | .fields _ :: _ => none

/-- Reads the first token of a value. -/
def beginValue (opened : List Frame) : Token → Option Reader
  | .null => accept .null opened
  | .flag b => accept (.flag b) opened
  | .number digits => accept (.number digits) opened
  | .string body => accept (.string body) opened
  | .openArray => some ⟨.firstItem, .items [] :: opened⟩
  | .openObject => some ⟨.firstName, .fields [] :: opened⟩
  | _ => none

/-- Closes what was opened last. -/
def close : List Frame → Token → Option Reader
  | .items sofar :: opened, .closeArray => accept (.array sofar.reverse) opened
  | .fields sofar :: opened, .closeObject => accept (.object sofar.reverse) opened
  | _, _ => none

/-- Goes past a comma. -/
def divide : List Frame → Option Reader
  | .items sofar :: opened => some ⟨.value, .items sofar :: opened⟩
  | .fields sofar :: opened => some ⟨.name, .fields sofar :: opened⟩
  | _ => none

/-- Reads one token. -/
def step (reader : Reader) (token : Token) : Option Reader :=
  match reader.expect, token with
  | .value, token => beginValue reader.opened token
  | .firstItem, .closeArray => close reader.opened .closeArray
  | .firstItem, token => beginValue reader.opened token
  | .name, .string name => some ⟨.colon name, reader.opened⟩
  | .firstName, .string name => some ⟨.colon name, reader.opened⟩
  | .firstName, .closeObject => close reader.opened .closeObject
  | .colon name, .colon =>
    match reader.opened with
    | .fields sofar :: opened => some ⟨.value, .member sofar name :: opened⟩
    | _ => none
  | .divider, .comma => divide reader.opened
  | .divider, token => close reader.opened token
  | _, _ => none

/-- Reads some tokens. -/
def run : Reader → List Token → Option Reader
  | reader, [] => some reader
  | reader, token :: rest =>
    match reader.step token with
    | none => none
    | some next => next.run rest

end Reader

/-- The value that some tokens spell. -/
def ofTokens? (ts : List Token) : Option Json :=
  match Reader.start.run ts with
  | some ⟨.finish value, _⟩ => some value
  | _ => none

/-- The value of a text. -/
def parse (bs : Bytes) : Option Json := (tokens bs).bind ofTokens?

end Json

end PublicFunds
