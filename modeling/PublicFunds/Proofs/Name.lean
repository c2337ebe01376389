import PublicFunds.Key
import PublicFunds.Proofs.Text.Lowercase

/-!
# A key is its own key

Names are compared by their keys, and keys are themselves compared, stored and typed in again as
names.  That is only sound if making a key of a key changes nothing.  Trimming and lowercasing each
do nothing the second time.  For both together it has to be known that lowercasing leaves no blank
at an end where there was none, and that it does not matter for the second time what the first one
has made of the neighbours of a sigma.

The blanks around a name are gone before it is lowercased.  So they do not count as neighbours
either, and a sigma at the end of a name is at the end of a word with any blanks behind it.

* `NameKey.Normalizes`, `NameKey.normalizes`: what becomes of every name.
-/

namespace PublicFunds

namespace NameKey

theorem ext_toList {k l : NameKey} (h : k.text.toList = l.text.toList) : k = l := by
  cases k
  cases l
  exact congrArg NameKey.mk (String.toList_inj.1 h)

/-- **The key of a key is the key.** -/
theorem of_text_of (name : String) : of (of name).text = of name := by
  have core := Text.isCore_trimChars name.toList
  apply ext_toList
  rw [toList_text_of, toList_text_of, Text.trimChars_lowerChars core.first core.last,
    Text.lowerChars_lowerChars]

/-- **Blanks around a name do not count.** -/
theorem of_append {front name back : String} (before : Text.isBlank front = true)
    (behind : Text.isBlank back = true) : of (front ++ name ++ back) = of name := by
  apply ext_toList
  rw [toList_text_of, toList_text_of, String.toList_append, String.toList_append,
    Text.trimChars_append before behind]

/-- **A key is empty exactly if there is nothing but blanks in the name.** -/
theorem isEmpty_of_iff {name : String} :
    (of name).isEmpty = true ↔ Text.isBlank name = true := by
  rw [isEmpty, toList_text_of, List.isEmpty_iff, Text.lowerChars_eq_nil_iff,
    Text.trimChars_eq_nil_iff, Text.isBlank]

/-- **A key is the lowercase of the core of a name**, and no other key is. -/
theorem eq_of_iff {name : String} {k : NameKey} :
    k = of name ↔ ∃ core, Text.IsCore core name.toList ∧ Text.IsLowercase core k.text.toList := by
  constructor
  · rintro rfl
    refine ⟨_, Text.isCore_trimChars name.toList, Text.isLowercase_iff.2 ?_⟩
    rw [toList_text_of]
  · rintro ⟨core, inside, lower⟩
    apply ext_toList
    rw [toList_text_of, ← Text.isCore_iff.1 inside, Text.isLowercase_iff.1 lower]

/-- What a key keeps of a name, and what it does not. -/
structure Normalizes (name : String) : Prop where
  /-- A key is its own key. -/
  again : of (of name).text = of name
  /-- Blanks around the name do not count. -/
  padded : ∀ front back, Text.isBlank front = true → Text.isBlank back = true →
    of (front ++ name ++ back) = of name
  /-- Nothing is left of a name exactly if it is blank. -/
  empty : (of name).isEmpty = true ↔ Text.isBlank name = true
  /-- The key is the full lowercase of what stands between the blanks around the name. -/
  exact : ∀ k : NameKey, k = of name ↔
    ∃ core, Text.IsCore core name.toList ∧ Text.IsLowercase core k.text.toList

/-- **Every name is normalized by its key**: the key is the lowercase of the name without the blanks
around it, and making keys again or with other blanks gives the same one. -/
theorem normalizes (name : String) : Normalizes name where
  again := of_text_of name
  padded _ _ := of_append
  empty := isEmpty_of_iff
  exact _ := eq_of_iff

/-- A sigma at the end of the name is at the end of a word, with blanks behind it as well, and the
dot of the capital I becomes a character of its own. -/
theorem normalizes_sisyphus :
    Text.isBlank "\u3000" = true ∧ Text.isBlank "\u00A0\n" = true ∧
      of ("\u3000" ++ "ΣΊΣΥΦΟΣ İ'Σ" ++ "\u00A0\n") = ⟨"σίσυφος i̇'ς"⟩ := by
  have front : Text.isBlank "\u3000" = true := by decide
  have back : Text.isBlank "\u00A0\n" = true := by decide
  refine ⟨front, back, ?_⟩
  rw [(normalizes "ΣΊΣΥΦΟΣ İ'Σ").padded _ _ front back]
  decide +kernel

end NameKey

end PublicFunds
