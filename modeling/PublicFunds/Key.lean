import PublicFunds.Text.WhiteSpace
import PublicFunds.Text.Lowercase
import PublicFunds.Text.Utf8

/-!
# Keys made of names

Two spellings of a name that differ in letter case or in surrounding blanks are one name.  The
ledger therefore compares names by their key: the name trimmed and lowercased.

Scorecards and delegations are unique under a pair of names.  As a storage key the two parts each
carry their length, so no character inside a part can be taken for the border between them.

* `NameKey.of`, `PairKey.of`: the key of a name and of two.
* `PairKey.bytes`: the storage form of a pair.
-/

namespace PublicFunds

/-- What two spellings of one name have in common. -/
structure NameKey where
  /-- The trimmed and lowercased name. -/
  text : String
  deriving DecidableEq, Repr

namespace NameKey

/-- The key of a name. -/
def of (name : String) : NameKey := ⟨Text.lower (Text.trim name)⟩

/-- The UTF-8 bytes of a key. -/
def bytes (k : NameKey) : Bytes := Utf8.bytes k.text

/-- A key with nothing in it. -/
def isEmpty (k : NameKey) : Bool := k.text.toList.isEmpty

@[simp] theorem toList_text_of (name : String) :
    (of name).text.toList = Text.lowerChars (Text.trimChars name.toList) := by
  simp [of]

end NameKey

/-- The key of two names, the first of which comes first in every order. -/
structure PairKey where
  primary : NameKey
  secondary : NameKey
  deriving DecidableEq, Repr

namespace PairKey

/-- The key of two names. -/
def of (primary secondary : String) : PairKey := ⟨.of primary, .of secondary⟩

/-- One part in storage: its length in four bytes, the highest digit first, and its text. -/
def part (k : NameKey) : Bytes := Bytes.big 4 k.bytes.length ++ k.bytes

/-- The storage form of a pair. -/
def bytes (k : PairKey) : Bytes := part k.primary ++ part k.secondary

/-- The pair as it is shown in messages. -/
def display (k : PairKey) : String := s!"({k.primary.text}, {k.secondary.text})"

/-- Pairs compare by the bytes of the first part and then by those of the second. -/
instance : Ord PairKey where
  compare k l := (compare k.primary.bytes l.primary.bytes).then
    (compare k.secondary.bytes l.secondary.bytes)

end PairKey

end PublicFunds
