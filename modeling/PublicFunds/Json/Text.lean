import PublicFunds.Bytes.Hex
import PublicFunds.Json.Basic
import PublicFunds.Text.Utf8

/-!
# Strings in JSON

What stands between the quotes of a string spells its characters.  Writing escapes only what has to
be escaped: the quote, the backslash and the control characters.  Reading knows all escapes; a
character beyond the first 65536 code points may be given by two code units, which must then stand
together and in order.

* `Json.escape`, `Json.unescape`: the two directions on characters and bytes.
* `Json.ofText`, `Json.text?`: a string value from a text and back.
-/

namespace PublicFunds

namespace Json

/-- A control character by its code unit. -/
def escapeUnit (n : Nat) : List Char :=
  ['\\', 'u', '0', '0', Hex.digit (n / 16), Hex.digit (n % 16)]

/-- A character as it stands between quotes. -/
def escapeChar (c : Char) : List Char :=
  if c = '"' then ['\\', '"']
  else if c = '\\' then ['\\', '\\']
  else if c = '\x08' then ['\\', 'b']
  else if c = '\x0c' then ['\\', 'f']
  else if c = '\n' then ['\\', 'n']
  else if c = '\r' then ['\\', 'r']
  else if c = '\t' then ['\\', 't']
  else if c.toNat < 0x20 then escapeUnit c.toNat
  else [c]

/-- The body of a string. -/
def escape (cs : List Char) : Bytes := Utf8.encode (cs.flatMap escapeChar)

/-- The byte that a short escape stands for. -/
def shortEscape? (b : UInt8) : Option UInt8 :=
  if b = 0x22 then some 0x22
  else if b = 0x5C then some 0x5C
  else if b = 0x2F then some 0x2F
  else if b = 0x62 then some 0x08
  else if b = 0x66 then some 0x0C
  else if b = 0x6E then some 0x0A
  else if b = 0x72 then some 0x0D
  else if b = 0x74 then some 0x09
  else none

/-- The code unit that four digits name. -/
def unit? (h₁ h₂ h₃ h₄ : UInt8) : Option Nat :=
  match Hex.readNumber 0 0 [h₁, h₂, h₃, h₄] with
  | .ok n => some n
  | .error _ => none

/-- A code unit that only counts together with one after it. -/
def isHighUnit (n : Nat) : Bool := 0xD800 ≤ n && n ≤ 0xDBFF

/-- A code unit that only counts together with one before it. -/
def isLowUnit (n : Nat) : Bool := 0xDC00 ≤ n && n ≤ 0xDFFF

/-- The character of two code units. -/
def joinUnits (high low : Nat) : Char :=
  Char.ofNat (0x10000 + (high - 0xD800) * 0x400 + (low - 0xDC00))

/-- The bytes that a string body spells. -/
def unescape : Bytes → Option Bytes
  | [] => some []
  | b :: rest =>
    if b = backslash then
      match rest with
      | [] => none
      | e :: rest =>
        match shortEscape? e with
        | some c => (unescape rest).map (c :: ·)
        | none =>
          if e = 0x75 then
            match rest with
            | h₁ :: h₂ :: h₃ :: h₄ :: rest =>
              match unit? h₁ h₂ h₃ h₄ with
              | none => none
              | some n =>
                if isLowUnit n then none
                else if isHighUnit n then
                  match rest with
                  | s :: u :: l₁ :: l₂ :: l₃ :: l₄ :: rest =>
                    if s = backslash ∧ u = 0x75 then
                      match unit? l₁ l₂ l₃ l₄ with
                      | none => none
                      | some m =>
                        if isLowUnit m then
                          (unescape rest).map (String.utf8EncodeChar (joinUnits n m) ++ ·)
                        else none
                    else none
                  | _ => none
                else (unescape rest).map (String.utf8EncodeChar (Char.ofNat n) ++ ·)
            | _ => none
          else none
    else (unescape rest).map (b :: ·)

/-- The text that a string body spells. -/
def bodyText? (body : Bytes) : Option String :=
  match unescape body with
  | none => none
  | some bs =>
    match Utf8.text bs with
    | .ok s => some s
    | .error _ => none

/-- A text as a value. -/
def ofText (s : String) : Json := .string (escape s.toList)

/-- The text that a value is. -/
def text? : Json → Option String
  | .string body => bodyText? body
  | _ => none

end Json

end PublicFunds
