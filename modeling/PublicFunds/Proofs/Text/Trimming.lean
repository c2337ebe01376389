import PublicFunds.Text.WhiteSpace

/-!
# What trimming takes away

Trimming takes away blanks at both ends, and stops at the first character on either side that is no
blank.  So what is left neither starts nor ends with a blank, and a text that is like this already
stays as it is, whatever is inside it.  There is only one such text inside a given one with nothing
but blanks around it, and more blanks around that change nothing.

* `Text.trimChars_isPrefix`, `Text.isWhiteSpace_of_mem_head?`: what is left, and how it starts.
* `Text.trimChars_eq_self`: what stays as it is.
* `Text.trimChars_append`: blanks around a text make no difference.
* `Text.IsCore`, `Text.isCore_iff`: what trimming leaves, said without how it is found.
-/

namespace PublicFunds

namespace Text

/-- Nothing is dropped from a list whose first entry is not of the class. -/
theorem dropWhile_eq_self {α : Type} {p : α → Bool} {l : List α}
    (first : ∀ a ∈ l.head?, p a = false) : l.dropWhile p = l := by
  cases l with
  | nil => rfl
  | cons a l => exact List.dropWhile_cons_of_neg (Bool.eq_false_iff.1 (first a rfl))

/-- What is left starts where the blanks at the front end. -/
theorem trimChars_isPrefix (cs : List Char) : trimChars cs <+: cs.dropWhile isWhiteSpace := by
  have tail := List.dropWhile_suffix (l := (cs.dropWhile isWhiteSpace).reverse) isWhiteSpace
  have front := List.reverse_prefix.2 tail
  rwa [List.reverse_reverse] at front

/-- What is left does not start with a blank. -/
theorem isWhiteSpace_of_mem_head? {cs : List Char} {c : Char} (h : c ∈ (trimChars cs).head?) :
    isWhiteSpace c = false := by
  obtain ⟨behind, split⟩ := trimChars_isPrefix cs
  obtain ⟨rest, start⟩ := List.head?_eq_some_iff.1 (Option.mem_def.1 h)
  have first := List.head?_dropWhile_not isWhiteSpace cs
  rwa [← split, start, List.cons_append, List.head?_cons] at first

/-- What is left does not end with a blank. -/
theorem isWhiteSpace_of_mem_getLast? {cs : List Char} {c : Char}
    (h : c ∈ (trimChars cs).getLast?) : isWhiteSpace c = false := by
  rw [trimChars, dropEndWhile, List.getLast?_reverse, Option.mem_def] at h
  have last := List.head?_dropWhile_not isWhiteSpace (cs.dropWhile isWhiteSpace).reverse
  rwa [h] at last

/-- **A text that neither starts nor ends with a blank stays as it is.** -/
theorem trimChars_eq_self {cs : List Char} (first : ∀ c ∈ cs.head?, isWhiteSpace c = false)
    (last : ∀ c ∈ cs.getLast?, isWhiteSpace c = false) : trimChars cs = cs := by
  rw [← List.head?_reverse] at last
  rw [trimChars, dropWhile_eq_self first, dropEndWhile, dropWhile_eq_self last,
    List.reverse_reverse]

/-- Entries of the class at the end are dropped with the others. -/
theorem dropEndWhile_append {α : Type} {p : α → Bool} {l back : List α}
    (all : back.all p = true) : dropEndWhile p (l ++ back) = dropEndWhile p l := by
  rw [dropEndWhile, List.reverse_append, List.dropWhile_append_of_pos, dropEndWhile]
  exact fun a ha => List.all_eq_true.1 all a (List.mem_reverse.1 ha)

/-- **Blanks around a text make no difference.** -/
theorem trimChars_append {front cs back : List Char} (before : front.all isWhiteSpace = true)
    (behind : back.all isWhiteSpace = true) : trimChars (front ++ cs ++ back) = trimChars cs := by
  rw [List.append_assoc, trimChars, trimChars,
    List.dropWhile_append_of_pos (List.all_eq_true.1 before), List.dropWhile_append]
  split
  · next gone =>
    -- with nothing in front of them the blanks behind are dropped from the front
    rw [dropWhile_eq_nil.2 behind, List.isEmpty_iff.1 gone]
  · exact dropEndWhile_append behind

/-- The blanks at both ends are all that is taken away. -/
theorem exists_append_trimChars (cs : List Char) :
    ∃ front back, cs = front ++ trimChars cs ++ back ∧ front.all isWhiteSpace = true ∧
      back.all isWhiteSpace = true := by
  let rest := cs.dropWhile isWhiteSpace
  have ends := List.takeWhile_append_dropWhile (p := isWhiteSpace) (l := rest.reverse)
  have reversed := congrArg List.reverse ends
  rw [List.reverse_append, List.reverse_reverse] at reversed
  refine ⟨cs.takeWhile isWhiteSpace, (rest.reverse.takeWhile isWhiteSpace).reverse, ?_,
    List.all_takeWhile, ?_⟩
  · rw [List.append_assoc, trimChars, dropEndWhile, reversed, List.takeWhile_append_dropWhile]
  · rw [List.all_reverse]
    exact List.all_takeWhile

/-- A text has nothing but blanks around its core, which neither starts nor ends with one. -/
structure IsCore (core cs : List Char) : Prop where
  around : ∃ front back, cs = front ++ core ++ back ∧ front.all isWhiteSpace = true ∧
    back.all isWhiteSpace = true
  first : ∀ c ∈ core.head?, isWhiteSpace c = false
  last : ∀ c ∈ core.getLast?, isWhiteSpace c = false

theorem isCore_trimChars (cs : List Char) : IsCore (trimChars cs) cs where
  around := exists_append_trimChars cs
  first _ := isWhiteSpace_of_mem_head?
  last _ := isWhiteSpace_of_mem_getLast?

/-- **What trimming leaves** is the one core of a text. -/
theorem isCore_iff {core cs : List Char} : IsCore core cs ↔ core = trimChars cs := by
  constructor
  · rintro ⟨⟨front, back, rfl, before, behind⟩, first, last⟩
    rw [trimChars_append before behind, trimChars_eq_self first last]
  · rintro rfl
    exact isCore_trimChars cs

end Text

end PublicFunds
