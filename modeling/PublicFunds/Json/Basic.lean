import PublicFunds.Bytes.Basic

/-!
# JSON values as they are written

A JSON text has structure, and it has spelling: a number can be written in more than one way, and
so can every character of a string.  A value here keeps the spelling.  A number is its characters
and a string is what stands between its quotes, so reading a text cannot fail on a string that no
character sequence belongs to, or on a number beyond every range, as long as nobody asks for them.
A document with fields that its reader does not know is read in this way.

* `Json.compact`: the text of a value without blanks.
* `Json.pretty`: the text of a value with one item a line.
-/

namespace PublicFunds

/-- A JSON value with the spelling of its numbers and strings. -/
inductive Json where
  | null
  | flag (value : Bool)
  /-- A number, by its characters. -/
  | number (digits : Bytes)
  /-- A string, by what stands between its quotes. -/
  | string (body : Bytes)
  | array (items : List Json)
  /-- An object; a name may occur more than once. -/
  | object (fields : List (Bytes × Json))

namespace Json

instance : Inhabited Json := ⟨.null⟩

/-! ## Characters of the notation -/

def quote : UInt8 := 0x22

def backslash : UInt8 := 0x5C

def comma : UInt8 := 0x2C

def colon : UInt8 := 0x3A

def openBracket : UInt8 := 0x5B

def closeBracket : UInt8 := 0x5D

def openBrace : UInt8 := 0x7B

def closeBrace : UInt8 := 0x7D

def blank : UInt8 := 0x20

def newline : UInt8 := 0x0A

/-- The letters of `null`. -/
def nullWord : Bytes := [0x6E, 0x75, 0x6C, 0x6C]

/-- The letters of `true`. -/
def trueWord : Bytes := [0x74, 0x72, 0x75, 0x65]

/-- The letters of `false`. -/
def falseWord : Bytes := [0x66, 0x61, 0x6C, 0x73, 0x65]

/-- The text of a truth value. -/
def flagWord (b : Bool) : Bytes := if b then trueWord else falseWord

/-- A string body between its quotes. -/
def inQuotes (body : Bytes) : Bytes := quote :: (body ++ [quote])

/-! ## Without blanks -/

mutual

/-- The text of a value without blanks. -/
def compact : Json → Bytes
  | .null => nullWord
  | .flag b => flagWord b
  | .number digits => digits
  | .string body => inQuotes body
  | .array items => openBracket :: (compactItems items ++ [closeBracket])
  | .object fields => openBrace :: (compactFields fields ++ [closeBrace])

/-- Values divided by commas. -/
def compactItems : List Json → Bytes
  | [] => []
  | [item] => compact item
  | item :: rest => compact item ++ comma :: compactItems rest

/-- Named values divided by commas. -/
def compactFields : List (Bytes × Json) → Bytes
  | [] => []
  | [(name, value)] => inQuotes name ++ colon :: compact value
  | (name, value) :: rest =>
    inQuotes name ++ colon :: (compact value ++ comma :: compactFields rest)

end

/-! ## One item a line -/

/-- The start of a line at a depth: two blanks a level. -/
def startLine (depth : Nat) : Bytes := newline :: List.replicate (2 * depth) blank

mutual

/-- The text of a value that stands at a depth.  Items stand on lines of their own, one level
deeper; an empty list or object stays on its line. -/
def prettyAt (depth : Nat) : Json → Bytes
  | .null => nullWord
  | .flag b => flagWord b
  | .number digits => digits
  | .string body => inQuotes body
  | .array [] => [openBracket, closeBracket]
  | .array items =>
    openBracket :: (prettyItems (depth + 1) items ++ startLine depth ++ [closeBracket])
  | .object [] => [openBrace, closeBrace]
  | .object fields =>
    openBrace :: (prettyFields (depth + 1) fields ++ startLine depth ++ [closeBrace])

/-- Values on lines at a depth, divided by commas. -/
def prettyItems (depth : Nat) : List Json → Bytes
  | [] => []
  | [item] => startLine depth ++ prettyAt depth item
  | item :: rest => startLine depth ++ prettyAt depth item ++ comma :: prettyItems depth rest

/-- Named values on lines at a depth, divided by commas. -/
def prettyFields (depth : Nat) : List (Bytes × Json) → Bytes
  | [] => []
  | [(name, value)] =>
    startLine depth ++ inQuotes name ++ [colon, blank] ++ prettyAt depth value
  | (name, value) :: rest =>
    startLine depth ++ inQuotes name ++ [colon, blank] ++ prettyAt depth value ++
      comma :: prettyFields depth rest

end

/-- The text of a document. -/
def pretty (j : Json) : Bytes := prettyAt 0 j

end Json

end PublicFunds
