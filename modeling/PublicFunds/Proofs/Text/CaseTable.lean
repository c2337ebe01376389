import Mathlib.Data.List.Chain
import PublicFunds.Text.Lowercase
import PublicFunds.Text.WhiteSpace

/-!
# What the tables of letter case say

The tables are looked up from their lowest entry on, and the look-up stops as soon as the entries
are too high.  It therefore finds what is in a table only because the entries are in ascending
order and do not overlap, which is checked for each of the tables here.  Beyond that, a look-up has
nothing to do with the order, and the tables can be read as the sets of facts that they are.

The small letters in the table are themselves no capitals: no run takes one further.  Otherwise
lowercasing twice could be something else than lowercasing once.  To see this for all of them it is
enough to look at the runs in pairs: the small letters of one run lie in a range away from the other
run, or both runs take every second code point and the small letters of the one lie between the
capitals of the other.

* `Text.inRanges_eq_true_iff`, `Text.CaseRun.apply_of_sends`: look-ups in ascending tables.
* `Text.SmallLetter`, `Text.lowerChar_eq_iff`: what the lowercase of a single character is.
* `Text.SmallLetter.isSmall`: small letters stay as they are.
* `Text.SmallLetter.isWhiteSpace_eq_false`: small letters are no blanks.
-/

namespace PublicFunds

namespace Text

/-! ## Looking up in ascending tables -/

/-- A range is not empty and lies below another one. -/
def Below (r s : Nat × Nat) : Prop := r.1 ≤ r.2 ∧ r.2 < s.1

instance (r s : Nat × Nat) : Decidable (Below r s) := instDecidableAnd

instance : Trans Below Below Below where
  trans first second :=
    ⟨first.1, Nat.lt_trans first.2 (Nat.lt_of_le_of_lt second.1 second.2)⟩

/-- A range of a table has the code point of a character. -/
def Listed (ranges : List (Nat × Nat)) (c : Char) : Prop :=
  ∃ r ∈ ranges, r.1 ≤ c.toNat ∧ c.toNat ≤ r.2

/-- **A look-up in ascending ranges finds what is in one of them.** -/
theorem inRanges_eq_true_iff {n : Nat} {ranges : List (Nat × Nat)}
    (ascending : ranges.Pairwise Below) :
    inRanges n ranges = true ↔ ∃ r ∈ ranges, r.1 ≤ n ∧ n ≤ r.2 := by
  induction ranges with
  | nil => simp [inRanges]
  | cons r ranges ih =>
    obtain ⟨below, ascending⟩ := List.pairwise_cons.1 ascending
    rw [inRanges]
    split
    · next low =>
      -- no later range reaches down to a number that is too low for the first
      simp only [Bool.false_eq_true, false_iff, not_exists, not_and, Nat.not_le, List.mem_cons]
      rintro s (rfl | hs) start
      · omega
      · have above : r.2 < s.1 := (below s hs).2
        have filled : r.1 ≤ r.2 := (below s hs).1
        omega
    · next high =>
      rw [Bool.or_eq_true, decide_eq_true_eq, ih ascending, List.exists_mem_cons_iff]
      exact or_congr_left ⟨fun h => ⟨Nat.not_lt.1 high, h⟩, And.right⟩

theorem isCased_iff {c : Char} : isCased c = true ↔ Listed casedRanges c :=
  inRanges_eq_true_iff (List.isChain_iff_pairwise.1 (by decide +kernel))

theorem isCaseIgnorable_iff {c : Char} : isCaseIgnorable c = true ↔ Listed caseIgnorableRanges c :=
  inRanges_eq_true_iff (List.isChain_iff_pairwise.1 (by decide +kernel))

namespace CaseRun

/-- The range that a run lies in. -/
def range (r : CaseRun) : Nat × Nat := (r.first, r.last)

/-- How far the last capital of a run is from the first. -/
def span (r : CaseRun) : Nat := r.last - r.first

/-- A run has the capital `n` and takes it to the small letter `m`. -/
def Sends (r : CaseRun) (n m : Nat) : Prop :=
  ∃ k, n = r.first + k * r.step ∧ n ≤ r.last ∧ m = r.image + k * r.step

variable {r : CaseRun} {m n : Nat}

theorem Sends.first_le (h : r.Sends n m) : r.first ≤ n := by
  obtain ⟨k, rfl, -, -⟩ := h
  omega

theorem Sends.image_le (h : r.Sends n m) : r.image ≤ m := by
  obtain ⟨k, -, -, rfl⟩ := h
  omega

theorem Sends.le_image (h : r.Sends n m) : m ≤ r.image + r.span := by
  obtain ⟨k, rfl, last, rfl⟩ := h
  unfold span
  omega

/-- A look-up in ascending runs finds the run that has the capital. -/
theorem apply_of_sends {runs : List CaseRun} (ascending : (runs.map range).Pairwise Below)
    (mem : r ∈ runs) (h : r.Sends n m) : apply n runs = m := by
  induction runs with
  | nil => cases mem
  | cons s runs ih =>
    obtain ⟨below, ascending⟩ := List.pairwise_cons.1 ascending
    rcases List.mem_cons.1 mem with rfl | mem
    · obtain ⟨k, rfl, last, rfl⟩ := h
      have offset : r.first + k * r.step - r.first = k * r.step := Nat.add_sub_cancel_left ..
      rw [apply, if_neg (by omega), offset, if_pos ⟨last, Nat.mul_mod_left ..⟩]
    · have apart : s.first ≤ s.last ∧ s.last < r.first := below _ (List.mem_map_of_mem mem)
      have above := h.first_le
      rw [apply, if_neg (by omega), if_neg (by omega), ih ascending mem]

/-- A look-up leaves alone what no run has. -/
theorem apply_of_forall_not {runs : List CaseRun} (none : ∀ r ∈ runs, ∀ m, ¬r.Sends n m) :
    apply n runs = n := by
  induction runs with
  | nil => rfl
  | cons r runs ih =>
    rw [apply]
    split
    · rfl
    · next high =>
      split
      · next hit =>
        -- the remainder is zero, so the number is some steps behind the first capital
        have steps := Nat.div_mul_cancel (Nat.dvd_of_mod_eq_zero hit.2)
        exact absurd ⟨(n - r.first) / r.step, by omega, hit.1, rfl⟩
          (none r (List.mem_cons_self ..) _)
      · exact ih fun s hs => none s (List.mem_cons_of_mem _ hs)

end CaseRun

theorem ascending_lowercaseRuns : (lowercaseRuns.map CaseRun.range).Pairwise Below :=
  List.isChain_iff_pairwise.1 (by decide +kernel)

/-! ## The table of small letters -/

/-- The table has `c` as a capital and `d` as its small letter. -/
def SmallLetter (c d : Char) : Prop := ∃ r ∈ lowercaseRuns, r.Sends c.toNat d.toNat

/-- The code points of the blanks. -/
def blanks : List Nat :=
  [0x09, 0x0A, 0x0B, 0x0C, 0x0D, 0x20, 0x85, 0xA0, 0x1680, 0x2000, 0x2001, 0x2002, 0x2003, 0x2004,
   0x2005, 0x2006, 0x2007, 0x2008, 0x2009, 0x200A, 0x2028, 0x2029, 0x202F, 0x205F, 0x3000]

theorem isWhiteSpace_eq_true_iff {c : Char} :
    isWhiteSpace c = true ↔ c.toNat ∈ blanks := by
  simp only [isWhiteSpace, blanks, Bool.or_eq_true, Bool.and_eq_true, decide_eq_true_eq,
    beq_iff_eq, List.mem_cons, List.not_mem_nil, or_false]
  omega

namespace CaseRun

/-- The small letters of a run are characters, and none is a blank or the dotted capital I. -/
structure Proper (r : CaseRun) : Prop where
  valid : r.image + r.span < 0xD800 ∨ 0xDFFF < r.image ∧ r.image + r.span < 0x110000
  visible : ∀ n ∈ blanks, n < r.image ∨ r.image + r.span < n
  dotless : 'İ'.toNat < r.image ∨ r.image + r.span < 'İ'.toNat

instance (r : CaseRun) : Decidable r.Proper :=
  decidable_of_iff (_ ∧ _ ∧ _) ⟨fun h => ⟨h.1, h.2.1, h.2.2⟩, fun h => ⟨h.1, h.2, h.3⟩⟩

theorem proper_of_mem : ∀ r ∈ lowercaseRuns, r.Proper := by decide +kernel

/-- The small letters of one run lie outside the capitals of another, or between them. -/
def clears (r s : CaseRun) : Bool :=
  Nat.blt (r.image + r.span) s.first || Nat.blt s.last r.image ||
    (Nat.beq s.step 2 && (Nat.beq r.step 2 || Nat.beq r.span 0) &&
      Nat.beq ((r.image + s.first) % 2) 1)

theorem clears_of_mem : (lowercaseRuns.all fun r => lowercaseRuns.all r.clears) = true := by
  decide +kernel

/-- Small letters that are clear of a run are not capitals of it. -/
theorem not_sends_of_clears {r s : CaseRun} {n m x : Nat} (clear : r.clears s = true)
    (h : r.Sends n m) : ¬s.Sends m x := by
  intro again
  have low := h.image_le
  have high := h.le_image
  have above := again.first_le
  obtain ⟨k, rfl, last, rfl⟩ := h
  obtain ⟨j, at_j, bound, -⟩ := again
  simp only [clears, Bool.or_eq_true, Bool.and_eq_true, Nat.blt_eq, Nat.beq_eq] at clear
  rcases clear with (below | beyond) | ⟨⟨two, thin⟩, odd⟩
  · omega
  · omega
  · -- both step by two, from numbers of which one is even and the other odd
    rw [two] at at_j
    rcases thin with two' | single
    · rw [two'] at at_j
      omega
    · unfold span at single
      omega

end CaseRun

/-! ## Small letters -/

/-- The table only has code points of characters, so a number in it is that of a small letter. -/
theorem CaseRun.Sends.smallLetter {r : CaseRun} {c : Char} {m : Nat} (h : r.Sends c.toNat m)
    (hr : r ∈ lowercaseRuns) : SmallLetter c (Char.ofNat m) := by
  have low := h.image_le
  have high := h.le_image
  have valid : m.isValidChar := by
    rcases (proper_of_mem r hr).valid with below | ⟨above, bound⟩
    · exact .inl (by omega)
    · exact .inr ⟨by omega, by omega⟩
  have number : (Char.ofNat m).toNat = m := by
    rw [Char.ofNat, dif_pos valid]
    rfl
  exact ⟨r, hr, by rwa [number]⟩

theorem SmallLetter.lowerChar_eq {c d : Char} (h : SmallLetter c d) : lowerChar c = d := by
  obtain ⟨r, hr, sends⟩ := h
  rw [lowerChar, CaseRun.apply_of_sends ascending_lowercaseRuns hr sends, Char.ofNat_toNat]

theorem lowerChar_of_forall_not {c : Char} (none : ∀ d, ¬SmallLetter c d) : lowerChar c = c := by
  rw [lowerChar, CaseRun.apply_of_forall_not, Char.ofNat_toNat]
  exact fun r hr m sends => none _ (sends.smallLetter hr)

/-- **The lowercase of a single character** is the small letter in the table, and without one the
character itself. -/
theorem lowerChar_eq_iff {c d : Char} :
    lowerChar c = d ↔ SmallLetter c d ∨ d = c ∧ ∀ e, ¬SmallLetter c e := by
  constructor
  · rintro rfl
    by_cases some : ∃ e, SmallLetter c e
    · obtain ⟨e, small⟩ := some
      rw [small.lowerChar_eq]
      exact .inl small
    · have none := not_exists.1 some
      exact .inr ⟨lowerChar_of_forall_not none, none⟩
  · rintro (small | ⟨rfl, none⟩)
    · exact small.lowerChar_eq
    · exact lowerChar_of_forall_not none

/-- A character that lowercasing leaves as it is, wherever it stands. -/
structure IsSmall (c : Char) : Prop where
  lower : lowerChar c = c
  sigma : c ≠ 'Σ'
  dotted : c ≠ 'İ'

instance (c : Char) : Decidable (IsSmall c) :=
  decidable_of_iff (_ ∧ _ ∧ _) ⟨fun h => ⟨h.1, h.2.1, h.2.2⟩, fun h => ⟨h.1, h.2, h.3⟩⟩

theorem smallLetter_sigma : SmallLetter 'Σ' 'σ' :=
  ⟨⟨0x03A3, 0x03AB, 1, 0x03C3⟩, by decide, 0, by decide, by decide, by decide⟩

/-- A character that is no capital stays as it is. -/
theorem isSmall_of_forall_not {c : Char} (none : ∀ d, ¬SmallLetter c d) (dotless : c ≠ 'İ') :
    IsSmall c := by
  refine ⟨lowerChar_of_forall_not none, ?_, dotless⟩
  rintro rfl
  exact none _ smallLetter_sigma

/-- **Small letters stay as they are.** -/
theorem SmallLetter.isSmall {c d : Char} (h : SmallLetter c d) : IsSmall d := by
  obtain ⟨r, hr, sends⟩ := h
  have none : ∀ e, ¬SmallLetter d e := by
    rintro e ⟨s, hs, again⟩
    have clear := List.all_eq_true.1 (List.all_eq_true.1 CaseRun.clears_of_mem r hr) s hs
    exact CaseRun.not_sends_of_clears clear sends again
  refine isSmall_of_forall_not none ?_
  rintro rfl
  have low := sends.image_le
  have high := sends.le_image
  have dotless := (CaseRun.proper_of_mem r hr).dotless
  omega

/-- **Small letters are no blanks.** -/
theorem SmallLetter.isWhiteSpace_eq_false {c d : Char} (h : SmallLetter c d) :
    isWhiteSpace d = false := by
  obtain ⟨r, hr, sends⟩ := h
  rw [← Bool.not_eq_true, isWhiteSpace_eq_true_iff]
  intro blank
  have low := sends.image_le
  have high := sends.le_image
  have visible := (CaseRun.proper_of_mem r hr).visible _ blank
  omega

end Text

end PublicFunds
