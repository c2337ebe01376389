import Mathlib.Data.List.Forall2
import PublicFunds.Proofs.Text.Lowercase

/-!
# Case variants

Two spellings of a text that differ only in the case of some letters have one lowercase.  That is
less obvious than it sounds, because the lowercase of a capital sigma depends on its neighbours: so
the neighbours have to be alike for the sigma as well.  A *case variant* of a character is one that
has its lowercase and that a sigma beside it cannot tell from it.

* `Text.startsCased_congr`: what a sigma sees of its neighbours is the same for case variants.
* `Text.lowerChars_congr`: texts of case variants have one lowercase.
-/

namespace PublicFunds

namespace Text

/-- Characters with one lowercase that count alike as neighbours of a sigma.  The two characters
whose lowercase is not a matter of the character alone are variants of themselves only. -/
structure CaseVariant (c d : Char) : Prop where
  cased : isCased c = isCased d
  ignorable : isCaseIgnorable c = isCaseIgnorable d
  lower : lowerChar c = lowerChar d
  sigma : c = 'Σ' ↔ d = 'Σ'
  dotted : c = 'İ' ↔ d = 'İ'

theorem CaseVariant.refl (c : Char) : CaseVariant c c :=
  ⟨rfl, rfl, rfl, Iff.rfl, Iff.rfl⟩

/-- Every text is a variant of itself. -/
theorem forall₂_caseVariant_refl (cs : List Char) : List.Forall₂ CaseVariant cs cs :=
  List.forall₂_same.2 fun c _ => CaseVariant.refl c

/-- What a sigma sees on one side does not depend on the variant. -/
theorem startsCased_congr {cs ds : List Char} (h : List.Forall₂ CaseVariant cs ds) :
    startsCased cs = startsCased ds := by
  induction h with
  | nil => rfl
  | @cons c d cs ds hcd _ ih =>
    by_cases hc : isCaseIgnorable c = true
    · have hd : isCaseIgnorable d = true := hcd.ignorable ▸ hc
      simpa [startsCased, hc, hd] using ih
    · have hd : ¬isCaseIgnorable d = true := hcd.ignorable ▸ hc
      simpa [startsCased, hc, hd] using hcd.cased

theorem lowerSigma_congr {before before' after after' : List Char}
    (hb : List.Forall₂ CaseVariant before before') (ha : List.Forall₂ CaseVariant after after') :
    lowerSigma before after = lowerSigma before' after' := by
  rw [lowerSigma, lowerSigma, startsCased_congr hb, startsCased_congr ha]

/-- Variants become the same between variants. -/
theorem lowerAt_congr {before before' after after' : List Char} {c d : Char}
    (hcd : CaseVariant c d) (hb : List.Forall₂ CaseVariant before before')
    (ha : List.Forall₂ CaseVariant after after') :
    lowerAt before c after = lowerAt before' d after' := by
  unfold lowerAt
  by_cases hs : c = 'Σ'
  · rw [if_pos hs, if_pos (hcd.sigma.1 hs), lowerSigma_congr hb ha]
  · rw [if_neg hs, if_neg fun hd => hs (hcd.sigma.2 hd)]
    by_cases hi : c = 'İ'
    · rw [if_pos hi, if_pos (hcd.dotted.1 hi)]
    · rw [if_neg hi, if_neg fun hd => hi (hcd.dotted.2 hd), hcd.lower]

/-- Variants have one lowercase wherever they stand, if the texts before them are variants. -/
theorem lowerAfter_congr {cs ds : List Char} (h : List.Forall₂ CaseVariant cs ds) :
    ∀ {before before' : List Char}, List.Forall₂ CaseVariant before before' →
      lowerAfter before cs = lowerAfter before' ds := by
  induction h with
  | nil =>
    intro before before' _
    rfl
  | cons hcd hrest ih =>
    intro before before' hb
    rw [lowerAfter_cons, lowerAfter_cons, lowerAt_congr hcd hb hrest, ih (.cons hcd hb)]

/-- **Case variants have one lowercase.** -/
theorem lowerChars_congr {cs ds : List Char} (h : List.Forall₂ CaseVariant cs ds) :
    lowerChars cs = lowerChars ds :=
  lowerAfter_congr h .nil

end Text

end PublicFunds
