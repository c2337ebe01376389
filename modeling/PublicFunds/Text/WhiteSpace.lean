/-!
# White space and trimming

A name typed with blanks around it is the same name, and a field that holds nothing but blanks
counts as not filled in.  A blank is a character with the Unicode property White_Space: this takes
in the no-break space, the ideographic space and the line and paragraph separators, and leaves out
the zero-width space and the byte order mark, which are format characters.

* `Text.trim`: a text without the blanks at its ends.
* `Text.isBlank`: there is nothing else in it.
-/

namespace PublicFunds

namespace Text

/-- The Unicode property White_Space. -/
def isWhiteSpace (c : Char) : Bool :=
  let n := c.toNat
  (0x09 ≤ n && n ≤ 0x0D) || n == 0x20 || n == 0x85 || n == 0xA0 || n == 0x1680 ||
    (0x2000 ≤ n && n ≤ 0x200A) || n == 0x2028 || n == 0x2029 || n == 0x202F || n == 0x205F ||
    n == 0x3000

/-- A list without the entries of a class at its end. -/
def dropEndWhile {α : Type} (p : α → Bool) (l : List α) : List α :=
  (l.reverse.dropWhile p).reverse

/-- The characters left when the blanks at both ends are taken away. -/
def trimChars (cs : List Char) : List Char :=
  dropEndWhile isWhiteSpace (cs.dropWhile isWhiteSpace)

/-- A text without the blanks at its ends. -/
def trim (s : String) : String := String.ofList (trimChars s.toList)

/-- A text of blanks alone, or of nothing. -/
def isBlank (s : String) : Bool := s.toList.all isWhiteSpace

@[simp] theorem toList_trim (s : String) : (trim s).toList = trimChars s.toList := by
  simp [trim]

/-- Nothing is left of a list exactly if all of it is dropped. -/
theorem dropWhile_eq_nil {α : Type} {p : α → Bool} {l : List α} :
    l.dropWhile p = [] ↔ l.all p = true := by
  induction l with
  | nil => simp
  | cons a l ih => by_cases h : p a <;> simp [h, ih]

/-- A text is blank exactly if nothing is left of it after trimming. -/
theorem trimChars_eq_nil_iff {cs : List Char} :
    trimChars cs = [] ↔ cs.all isWhiteSpace = true := by
  have front : (cs.dropWhile isWhiteSpace).all isWhiteSpace = cs.all isWhiteSpace := by
    induction cs with
    | nil => rfl
    | cons c cs ih => by_cases h : isWhiteSpace c <;> simp [h, ih]
  rw [trimChars, dropEndWhile, List.reverse_eq_nil_iff, dropWhile_eq_nil, List.all_reverse, front]

end Text

end PublicFunds
