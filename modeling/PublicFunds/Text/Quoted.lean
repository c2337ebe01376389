import PublicFunds.Text.CaseTable
import PublicFunds.Text.PrintableTable

/-!
# Quoted text

A value that was refused is shown between quotes, so that blanks at its ends and characters that
do not show can be seen.  Some controls have a short form; a character that is not printable, or
that would attach to the quote, is shown by its code point in braces.  Only the quote that is in
use needs an escape.

* `Text.quoted`: a text between double quotes.
* `Text.quotedChar`: a character between single quotes.
-/

namespace PublicFunds

namespace Text

/-- Whether a character can stand for itself between quotes. -/
def showsItself (c : Char) : Bool :=
  inRanges c.toNat printableRanges && !inRanges c.toNat attachingRanges

/-- The digits of a code point, as few as there can be. -/
def codePoint (c : Char) : List Char := Nat.toDigits 16 c.toNat

/-- A character as it stands between the quotes `quote`. -/
def escaped (quote c : Char) : List Char :=
  if c = '\x00' then ['\\', '0']
  else if c = '\t' then ['\\', 't']
  else if c = '\r' then ['\\', 'r']
  else if c = '\n' then ['\\', 'n']
  else if c = '\\' then ['\\', '\\']
  else if c = quote then ['\\', quote]
  else if showsItself c then [c]
  else '\\' :: 'u' :: '\x7b' :: (codePoint c ++ ['\x7d'])

/-- A text between double quotes. -/
def quoted (s : String) : String :=
  String.ofList ('"' :: (s.toList.flatMap (escaped '"') ++ ['"']))

/-- A character between single quotes. -/
def quotedChar (c : Char) : String :=
  String.ofList ('\'' :: (escaped '\'' c ++ ['\'']))

end Text

end PublicFunds
