import PublicFunds.Proofs.Text.CaseTable
import PublicFunds.Proofs.Text.Trimming

/-!
# What lowercasing does to a text

A text is lowercased character by character, and what a character becomes depends on the text
around it for one character only, the capital sigma.  The rule is said here once more on its own:
every character has its piece of the result, and the piece is what the character calls for between
the text before it and the text behind it.  This fixes the result, and the result is what
lowercasing gives, although this goes through the text once and keeps what it has passed.

Nothing that comes out is changed by lowercasing any more.  For the two small sigmas this takes no
look at the neighbours, as only the capital one has a choice.  So lowercasing twice is lowercasing
once, whatever the neighbours have become in the meantime.

* `Text.SeesLetter`, `Text.Lowers`, `Text.IsLowercase`: the rule.
* `Text.isLowercase_iff`: lowercasing follows it, and nothing else does.
* `Text.lowerChars_lowerChars`: lowercasing again changes nothing.
* `Text.trimChars_lowerChars`: it brings no blanks to the ends.
-/

namespace PublicFunds

namespace Text

/-! ## The rule -/

/-- A letter comes first once the characters that do not interrupt a word are passed; those are
passed over also where they are letters. -/
def SeesLetter (cs : List Char) : Prop :=
  ∃ passed c rest, cs = passed ++ c :: rest ∧ (∀ d ∈ passed, Listed caseIgnorableRanges d) ∧
    ¬Listed caseIgnorableRanges c ∧ Listed casedRanges c

/-- What a character becomes between two texts. -/
inductive Lowers (before after : List Char) : Char → List Char → Prop where
  /-- The dot above the capital I becomes a character of its own. -/
  | dotted : Lowers before after 'İ' ['i', '\u0307']
  /-- A sigma at the end of a word, that is behind a letter and not before one. -/
  | final (behind : SeesLetter before.reverse) (ends : ¬SeesLetter after) :
    Lowers before after 'Σ' ['ς']
  /-- A sigma inside a word, at its beginning or by itself. -/
  | inner (goesOn : SeesLetter before.reverse → SeesLetter after) : Lowers before after 'Σ' ['σ']
  /-- Any other capital. -/
  | capital {c d : Char} (sigma : c ≠ 'Σ') (dotless : c ≠ 'İ') (small : SmallLetter c d) :
    Lowers before after c [d]
  /-- A character that is no capital. -/
  | other {c : Char} (dotless : c ≠ 'İ') (none : ∀ d, ¬SmallLetter c d) : Lowers before after c [c]

/-- The second text is the lowercase of the first: it consists of one piece for each character, and
the piece is what the character becomes between the characters before and behind it. -/
def IsLowercase (cs ds : List Char) : Prop :=
  ∃ pieces : List (List Char), pieces.flatten = ds ∧ pieces.length = cs.length ∧
    ∀ before c after, cs = before ++ c :: after →
      ∃ piece, pieces[before.length]? = some piece ∧ Lowers before after c piece

/-! ## Lowercasing follows the rule -/

theorem startsCased_iff {cs : List Char} : startsCased cs = true ↔ SeesLetter cs := by
  constructor
  · intro h
    unfold startsCased at h
    split at h
    · cases h
    · next c rest start =>
      have first := List.head?_dropWhile_not isCaseIgnorable cs
      rw [start] at first
      refine ⟨cs.takeWhile isCaseIgnorable, c, rest, ?_, ?_, ?_, isCased_iff.1 h⟩
      · rw [← start, List.takeWhile_append_dropWhile]
      · exact fun d hd => isCaseIgnorable_iff.1 (List.all_eq_true.1 List.all_takeWhile d hd)
      · rw [← isCaseIgnorable_iff]
        exact Bool.eq_false_iff.1 first
  · rintro ⟨passed, c, rest, rfl, skipped, stops, letter⟩
    rw [← isCaseIgnorable_iff] at stops
    have skipped : ∀ d ∈ passed, isCaseIgnorable d = true :=
      fun d hd => isCaseIgnorable_iff.2 (skipped d hd)
    rw [startsCased, List.dropWhile_append_of_pos skipped, List.dropWhile_cons_of_neg stops]
    exact isCased_iff.2 letter

/-- The piece of the result that a character has; `before` is read backwards. -/
def lowerAt (before : List Char) (c : Char) (after : List Char) : List Char :=
  if c = 'Σ' then [lowerSigma before after]
  else if c = 'İ' then ['i', '\u0307']
  else [lowerChar c]

/-- The pieces of the result of a text that follows other characters. -/
def lowerPieces (before : List Char) : List Char → List (List Char)
  | [] => []
  | c :: rest => lowerAt before c rest :: lowerPieces (c :: before) rest

theorem lowerAfter_cons (before : List Char) (c : Char) (rest : List Char) :
    lowerAfter before (c :: rest) = lowerAt before c rest ++ lowerAfter (c :: before) rest := rfl

instance (cs : List Char) : Decidable (SeesLetter cs) := decidable_of_iff _ startsCased_iff

theorem lowerSigma_eq (before after : List Char) :
    lowerSigma before after = if SeesLetter before ∧ ¬SeesLetter after then 'ς' else 'σ' := by
  refine if_congr ?_ rfl rfl
  rw [Bool.and_eq_true, Bool.not_eq_true', ← Bool.not_eq_true, startsCased_iff, startsCased_iff]

/-- What a character becomes by the rule is its piece. -/
theorem Lowers.eq_lowerAt {before after piece : List Char} {c : Char}
    (h : Lowers before after c piece) : piece = lowerAt before.reverse c after := by
  cases h with
  | dotted => rw [lowerAt, if_neg (by decide), if_pos rfl]
  | final behind ends => rw [lowerAt, if_pos rfl, lowerSigma_eq, if_pos ⟨behind, ends⟩]
  | inner goesOn =>
    rw [lowerAt, if_pos rfl, lowerSigma_eq, if_neg fun final => final.2 (goesOn final.1)]
  | capital sigma dotless small =>
    rw [lowerAt, if_neg sigma, if_neg dotless, small.lowerChar_eq]
  | other dotless none =>
    have small := isSmall_of_forall_not none dotless
    rw [lowerAt, if_neg small.sigma, if_neg dotless, small.lower]

/-- The piece of a character is what it becomes by the rule. -/
theorem lowers_lowerAt (before : List Char) (c : Char) (after : List Char) :
    Lowers before.reverse after c (lowerAt before c after) := by
  unfold lowerAt
  split
  · next sigma =>
    subst sigma
    rw [lowerSigma_eq]
    split
    · next final =>
      rw [← List.reverse_reverse before] at final
      exact .final final.1 final.2
    · next inner =>
      rw [← List.reverse_reverse before, not_and, not_not] at inner
      exact .inner inner
  split
  · next dotted =>
    subst dotted
    exact .dotted
  · next sigma dotless =>
    rcases lowerChar_eq_iff.1 (rfl : lowerChar c = lowerChar c) with small | ⟨same, none⟩
    · exact .capital sigma dotless small
    · rw [same]
      exact .other dotless none

theorem flatten_lowerPieces (before cs : List Char) :
    (lowerPieces before cs).flatten = lowerAfter before cs := by
  induction cs generalizing before with
  | nil => rfl
  | cons c cs ih => rw [lowerPieces, List.flatten_cons, ih, lowerAfter_cons]

theorem length_lowerPieces (before cs : List Char) :
    (lowerPieces before cs).length = cs.length := by
  induction cs generalizing before with
  | nil => rfl
  | cons c cs ih => rw [lowerPieces, List.length_cons, ih, List.length_cons]

theorem getElem?_lowerPieces (before front : List Char) (c : Char) (back : List Char) :
    (lowerPieces before (front ++ c :: back))[front.length]? =
      some (lowerAt (front.reverse ++ before) c back) := by
  induction front generalizing before with
  | nil => rfl
  | cons d front ih =>
    rw [List.cons_append, lowerPieces, List.length_cons, List.getElem?_cons_succ, ih,
      List.reverse_cons, List.append_assoc, List.singleton_append]

theorem getElem?_lowerPieces_nil (front : List Char) (c : Char) (back : List Char) :
    (lowerPieces [] (front ++ c :: back))[front.length]? = some (lowerAt front.reverse c back) := by
  rw [getElem?_lowerPieces, List.append_nil]

/-- Pieces that the rule allows are those of lowercasing. -/
theorem eq_lowerPieces {cs : List Char} {pieces : List (List Char)}
    (length : pieces.length = cs.length)
    (rule : ∀ before c after, cs = before ++ c :: after →
      ∃ piece, pieces[before.length]? = some piece ∧ Lowers before after c piece) :
    pieces = lowerPieces [] cs := by
  apply List.ext_getElem?
  intro i
  by_cases inside : i < cs.length
  · have split : cs = cs.take i ++ cs[i] :: cs.drop (i + 1) := by
      rw [← List.drop_eq_getElem_cons inside, List.take_append_drop]
    have place : (cs.take i).length = i := List.length_take_of_le (Nat.le_of_lt inside)
    obtain ⟨piece, at_i, lowers⟩ := rule _ _ _ split
    have own := getElem?_lowerPieces_nil (cs.take i) cs[i] (cs.drop (i + 1))
    rw [← split, ← lowers.eq_lowerAt] at own
    rw [place] at at_i own
    rw [at_i, own]
  · rw [List.getElem?_eq_none (by omega),
      List.getElem?_eq_none (by rw [length_lowerPieces]; omega)]

/-- **Lowercasing follows the rule**, and no other text does. -/
theorem isLowercase_iff {cs ds : List Char} : IsLowercase cs ds ↔ ds = lowerChars cs := by
  constructor
  · rintro ⟨pieces, rfl, length, rule⟩
    rw [eq_lowerPieces length rule, flatten_lowerPieces, lowerChars]
  · rintro rfl
    refine ⟨lowerPieces [] cs, flatten_lowerPieces [] cs, length_lowerPieces [] cs, ?_⟩
    rintro before c after rfl
    have lowers := lowers_lowerAt before.reverse c after
    rw [List.reverse_reverse] at lowers
    exact ⟨_, getElem?_lowerPieces_nil before c after, lowers⟩

/-! ## Lowercasing again -/

/-- What a character becomes is not changed by lowercasing, and no blank if it is another one. -/
theorem Lowers.of_mem {before after piece : List Char} {c d : Char}
    (h : Lowers before after c piece) (hd : d ∈ piece) :
    IsSmall d ∧ (d = c ∨ isWhiteSpace d = false) := by
  cases h with
  | dotted =>
    rcases List.mem_pair.1 hd with rfl | rfl
    · exact ⟨by decide, .inr (by decide)⟩
    · exact ⟨by decide, .inr (by decide)⟩
  | final =>
    rw [List.mem_singleton.1 hd]
    exact ⟨by decide, .inr (by decide)⟩
  | inner =>
    rw [List.mem_singleton.1 hd]
    exact ⟨by decide, .inr (by decide)⟩
  | capital _ _ small =>
    rw [List.mem_singleton.1 hd]
    exact ⟨small.isSmall, .inr small.isWhiteSpace_eq_false⟩
  | other dotless none =>
    rw [List.mem_singleton.1 hd]
    exact ⟨isSmall_of_forall_not none dotless, .inl rfl⟩

theorem isSmall_of_mem_lowerAfter {before cs : List Char} {d : Char}
    (h : d ∈ lowerAfter before cs) : IsSmall d := by
  induction cs generalizing before with
  | nil => cases h
  | cons c cs ih =>
    rw [lowerAfter_cons, List.mem_append] at h
    rcases h with here | later
    · exact ((lowers_lowerAt before c cs).of_mem here).1
    · exact ih later

/-- A text of small characters stays as it is. -/
theorem lowerAfter_eq_self {before cs : List Char} (small : ∀ c ∈ cs, IsSmall c) :
    lowerAfter before cs = cs := by
  induction cs generalizing before with
  | nil => rfl
  | cons c cs ih =>
    have first := small c (List.mem_cons_self ..)
    rw [lowerAfter_cons, lowerAt, if_neg first.sigma, if_neg first.dotted, first.lower,
      List.singleton_append, ih fun d hd => small d (List.mem_cons_of_mem _ hd)]

/-- **Lowercasing again changes nothing.** -/
theorem lowerChars_lowerChars (cs : List Char) : lowerChars (lowerChars cs) = lowerChars cs :=
  lowerAfter_eq_self fun _ => isSmall_of_mem_lowerAfter

/-! ## Blanks at the ends -/

theorem lowerAt_ne_nil (before : List Char) (c : Char) (after : List Char) :
    lowerAt before c after ≠ [] := by
  unfold lowerAt
  split
  · exact List.cons_ne_nil _ _
  · split <;> exact List.cons_ne_nil _ _

/-- Nothing becomes of a text only if there is nothing in it. -/
theorem lowerChars_eq_nil_iff {cs : List Char} : lowerChars cs = [] ↔ cs = [] := by
  cases cs with
  | nil => exact ⟨fun _ => rfl, fun _ => rfl⟩
  | cons c cs =>
    have some := lowerAt_ne_nil [] c cs
    simp [lowerChars, lowerAfter_cons, some]

/-- A character that is no blank does not become one. -/
theorem isWhiteSpace_of_mem_lowerAt {before after : List Char} {c d : Char}
    (visible : isWhiteSpace c = false) (hd : d ∈ lowerAt before c after) :
    isWhiteSpace d = false := by
  rcases ((lowers_lowerAt before c after).of_mem hd).2 with rfl | other
  · exact visible
  · exact other

/-- Whatever becomes of the beginning of a text, the rest of it is lowercased behind it. -/
theorem lowerAfter_append (before first second : List Char) :
    ∃ start, lowerAfter before (first ++ second) =
      start ++ lowerAfter (first.reverse ++ before) second := by
  induction first generalizing before with
  | nil => exact ⟨[], rfl⟩
  | cons c first ih =>
    obtain ⟨start, rest⟩ := ih (c :: before)
    rw [List.reverse_cons, List.append_assoc, List.singleton_append]
    exact ⟨_, by rw [List.cons_append, lowerAfter_cons, rest, ← List.append_assoc]⟩

/-- The first character of the lowercase is in the piece of the first character. -/
theorem mem_of_mem_head?_lowerChars {c d : Char} {rest : List Char}
    (h : d ∈ (lowerChars (c :: rest)).head?) : d ∈ lowerAt [] c rest := by
  rw [lowerChars, lowerAfter_cons, List.head?_append_of_ne_nil _ (lowerAt_ne_nil _ _ _)] at h
  exact List.mem_of_mem_head? h

/-- The last character of the lowercase is in the piece of the last character. -/
theorem mem_of_mem_getLast?_lowerChars {c d : Char} {front : List Char}
    (h : d ∈ (lowerChars (front ++ [c])).getLast?) : d ∈ lowerAt front.reverse c [] := by
  obtain ⟨start, split⟩ := lowerAfter_append [] front [c]
  rw [lowerAfter_cons, lowerAfter, List.append_nil, List.append_nil] at split
  rw [lowerChars, split, List.getLast?_append_of_ne_nil _ (lowerAt_ne_nil _ _ _)] at h
  exact List.mem_of_mem_getLast? h

/-- **Lowercasing brings no blanks to the ends of a text.** -/
theorem trimChars_lowerChars {cs : List Char} (first : ∀ c ∈ cs.head?, isWhiteSpace c = false)
    (last : ∀ c ∈ cs.getLast?, isWhiteSpace c = false) :
    trimChars (lowerChars cs) = lowerChars cs := by
  apply trimChars_eq_self
  · intro d hd
    cases cs with
    | nil => cases hd
    | cons c rest =>
      have visible := first c (List.head?_cons ..)
      exact isWhiteSpace_of_mem_lowerAt visible (mem_of_mem_head?_lowerChars hd)
  · intro d hd
    rcases List.eq_nil_or_concat cs with rfl | ⟨front, c, rfl⟩
    · cases hd
    · rw [List.concat_eq_append] at hd last
      have visible := last c (List.getLast?_concat ..)
      exact isWhiteSpace_of_mem_lowerAt visible (mem_of_mem_getLast?_lowerChars hd)

end Text

end PublicFunds
