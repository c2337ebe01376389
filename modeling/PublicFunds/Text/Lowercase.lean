import PublicFunds.Text.CaseTable

/-!
# Lowercasing

Full Unicode lowercasing, which compares names regardless of case.  All characters but two go by
themselves to their small letter.  The capital I with a dot above becomes two characters, a small i
and the dot.  The Greek capital sigma has two small forms, and which of them is right depends on
the neighbours: the final form stands at the end of a word, that is after a letter and not before
one, where characters that do not interrupt a word are passed over on both sides.

* `Text.lower`: the lowercase of a text.
* `Text.lowerChar`: the lowercase of one character, away from the two exceptions.
-/

namespace PublicFunds

namespace Text

/-- The image of a code point under ascending runs; a code point outside them is its own. -/
def CaseRun.apply (n : Nat) : List CaseRun → Nat
  | [] => n
  | run :: rest =>
    if n < run.first then n
    else if n ≤ run.last ∧ (n - run.first) % run.step = 0 then run.image + (n - run.first)
    else CaseRun.apply n rest

/-- The lowercase of a character whose lowercase is one character. -/
def lowerChar (c : Char) : Char := Char.ofNat (CaseRun.apply c.toNat lowercaseRuns)

/-- The Unicode property Cased. -/
def isCased (c : Char) : Bool := inRanges c.toNat casedRanges

/-- The Unicode property Case_Ignorable. -/
def isCaseIgnorable (c : Char) : Bool := inRanges c.toNat caseIgnorableRanges

/-- Whether a letter comes first once the characters that do not interrupt a word are passed. -/
def startsCased (cs : List Char) : Bool :=
  match cs.dropWhile isCaseIgnorable with
  | [] => false
  | c :: _ => isCased c

/-- The small sigma for a capital one between the two texts; `before` is read backwards. -/
def lowerSigma (before after : List Char) : Char :=
  if startsCased before && !startsCased after then 'ς' else 'σ'

/-- The lowercase of a text that follows other characters; `before` holds them, the last first. -/
def lowerAfter (before : List Char) : List Char → List Char
  | [] => []
  | c :: rest =>
    (if c = 'Σ' then [lowerSigma before rest]
      else if c = 'İ' then ['i', '\u0307']
      else [lowerChar c]) ++ lowerAfter (c :: before) rest

/-- The lowercase of the characters of a text. -/
def lowerChars (cs : List Char) : List Char := lowerAfter [] cs

/-- The lowercase of a text. -/
def lower (s : String) : String := String.ofList (lowerChars s.toList)

@[simp] theorem toList_lower (s : String) : (lower s).toList = lowerChars s.toList := by
  simp [lower]

end Text

end PublicFunds
