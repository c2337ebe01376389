import PublicFunds.Json.Text
import PublicFunds.Json.Token
import PublicFunds.Proofs.Bytes.Number
import PublicFunds.Proofs.Text.Utf8

/-!
# Strings are read back

What is written between the quotes of a string is found again between them, and spells the
characters that it was written for.  There are two readers that have to agree with the writer.  One
looks for the closing quote, and must not take an escaped quote for it; the other undoes the
escapes.

A character is written in one of three ways, and both readers are followed through these.  Whatever
is written for a character, both readers go past it and are at the next one.

* `Json.Escaped`: the three ways.
* `Json.IsBody`, `Json.isBody_escape`: the first reader goes past what was written.
* `Json.Spells`, `Json.spells_escape`: the second reader goes past it, and has the characters.
* `Json.bodyText?_escape`: a string is read back.
-/

namespace PublicFunds

namespace Json

/-! ## How a character is written -/

/-- A byte that stands for itself in a string. -/
structure IsPlain (b : UInt8) : Prop where
  ne_quote : b ≠ quote
  ne_backslash : b ≠ backslash
  printable : ¬ b.toNat < 0x20

/-- A byte above the ASCII range stands for itself. -/
theorem isPlain_of_le {b : UInt8} (h : 0x80 ≤ b.toNat) : IsPlain b where
  ne_quote := by
    rintro rfl
    exact absurd h (by decide)
  ne_backslash := by
    rintro rfl
    exact absurd h (by decide)
  printable := by omega

/-- The bytes of a character that is not escaped stand for themselves. -/
theorem isPlain_of_mem {c : Char} (noQuote : c ≠ '"') (noBackslash : c ≠ '\\')
    (printable : ¬ c.toNat < 0x20) : ∀ b ∈ String.utf8EncodeChar c, IsPlain b := by
  have hv : c.val.toNat = c.toNat := rfl
  generalize hn : c.toNat = n at printable hv
  have char : ∀ d : Char, n = d.toNat → c = d := fun d hd => Char.toNat_inj.1 (hn.trans hd)
  have above : ∀ m, 0x80 ≤ m → m < 256 → IsPlain (UInt8.ofNat m) := fun m least most =>
    isPlain_of_le (by rwa [Utf8.toNat_byte most])
  unfold String.utf8EncodeChar
  simp only [hv]
  split
  · next one =>
    intro b hb
    have value : b.toNat = n := by rw [List.mem_singleton.1 hb, Utf8.toNat_byte (by omega)]
    exact ⟨fun h => noQuote (char '"' (by rw [← value, h]; rfl)),
      fun h => noBackslash (char '\\' (by rw [← value, h]; rfl)), by rwa [value]⟩
  split
  · simp only [List.mem_cons, List.not_mem_nil, or_false]
    rintro b (rfl | rfl) <;> exact above _ (by omega) (by omega)
  split
  · simp only [List.mem_cons, List.not_mem_nil, or_false]
    rintro b (rfl | rfl | rfl) <;> exact above _ (by omega) (by omega)
  · simp only [List.mem_cons, List.not_mem_nil, or_false]
    rintro b (rfl | rfl | rfl | rfl) <;> exact above _ (by omega) (by omega)

/-- **How a character is written**: by a short escape, by its code unit, or as itself. -/
inductive Escaped (c : Char) : Bytes → Prop where
  | short {e b : UInt8} (known : isShortEscape e = true) (stands : shortEscape? e = some b)
      (single : String.utf8EncodeChar c = [b]) : Escaped c [backslash, e]
  | unit {h₁ h₂ : UInt8} (first : isHexDigit h₁ = true) (second : isHexDigit h₂ = true)
      (value : unit? 0x30 0x30 h₁ h₂ = some c.toNat) (control : c.toNat < 0x20) :
      Escaped c [backslash, 0x75, 0x30, 0x30, h₁, h₂]
  | plain (each : ∀ b ∈ String.utf8EncodeChar c, IsPlain b) :
      Escaped c (String.utf8EncodeChar c)

/-- A digit that has a value is a digit. -/
theorem isHexDigit_of_value? {b : UInt8} {n : Nat} (h : Hex.value? b = some n) :
    isHexDigit b = true := by
  unfold Hex.value? at h
  simp only at h
  simp only [isHexDigit, isDigit, Bool.or_eq_true, Bool.and_eq_true, decide_eq_true_eq]
  split at h
  · omega
  · split at h
    · omega
    · split at h
      · omega
      · cases h

/-- A control character is written by its code unit. -/
theorem escaped_escapeUnit {c : Char} (control : c.toNat < 0x20) :
    Escaped c (Utf8.encode (escapeUnit c.toNat)) := by
  obtain ⟨h₁, hb₁, first⟩ := Hex.exists_byte_of_digit (n := c.toNat / 16) (by omega)
  obtain ⟨h₂, hb₂, second⟩ := Hex.exists_byte_of_digit (n := c.toNat % 16) (by omega)
  have bytes : Utf8.encode (escapeUnit c.toNat) = [backslash, 0x75, 0x30, 0x30, h₁, h₂] := by
    simp only [escapeUnit, Utf8.encode_cons, Utf8.encode_nil, hb₁, hb₂]
    rfl
  have zero : Hex.value? 0x30 = some 0 := by decide
  rw [bytes]
  refine .unit (isHexDigit_of_value? first) (isHexDigit_of_value? second) ?_ control
  simp only [unit?, Hex.readNumber, zero, first, second]
  congr 1
  omega

theorem escaped_escapeChar (c : Char) : Escaped c (Utf8.encode (escapeChar c)) := by
  unfold escapeChar
  split
  · next h =>
    subst h
    exact .short (e := 0x22) (b := 0x22) (by decide) (by decide) (by decide)
  split
  · next h =>
    subst h
    exact .short (e := 0x5C) (b := 0x5C) (by decide) (by decide) (by decide)
  split
  · next h =>
    subst h
    exact .short (e := 0x62) (b := 0x08) (by decide) (by decide) (by decide)
  split
  · next h =>
    subst h
    exact .short (e := 0x66) (b := 0x0C) (by decide) (by decide) (by decide)
  split
  · next h =>
    subst h
    exact .short (e := 0x6E) (b := 0x0A) (by decide) (by decide) (by decide)
  split
  · next h =>
    subst h
    exact .short (e := 0x72) (b := 0x0D) (by decide) (by decide) (by decide)
  split
  · next h =>
    subst h
    exact .short (e := 0x74) (b := 0x09) (by decide) (by decide) (by decide)
  split
  · next control => exact escaped_escapeUnit control
  · next noQuote noBackslash _ _ _ _ _ printable =>
    rw [Utf8.encode_cons, Utf8.encode_nil, List.append_nil]
    exact .plain (isPlain_of_mem noQuote noBackslash printable)

/-! ## Where a string ends -/

/-- Some bytes are part of a string: whoever looks for its end goes past them. -/
def IsBody (bs : Bytes) : Prop :=
  ∀ rest, stringBody (bs ++ rest) =
    (stringBody rest).map fun parts => (bs ++ parts.1, parts.2)

theorem isBody_nil : IsBody [] := fun rest => by simp

theorem IsBody.append {first second : Bytes} (h : IsBody first) (h' : IsBody second) :
    IsBody (first ++ second) := by
  intro rest
  rw [List.append_assoc, h, h', Option.map_map]
  congr 1
  funext parts
  simp

theorem isBody_of_isPlain {bs : Bytes} (plain : ∀ b ∈ bs, IsPlain b) : IsBody bs := by
  induction bs with
  | nil => exact isBody_nil
  | cons b bs ih =>
    obtain ⟨noQuote, noBackslash, printable⟩ := plain b (List.mem_cons_self ..)
    have single : IsBody [b] := fun rest => by
      rw [List.singleton_append, stringBody.eq_def]
      simp only [if_neg noQuote, if_neg noBackslash, if_neg printable]
      rfl
    exact single.append (ih fun b' hb' => plain b' (List.mem_cons_of_mem _ hb'))

/-- What is written for a character is part of a string. -/
theorem Escaped.isBody {c : Char} {bs : Bytes} (h : Escaped c bs) : IsBody bs := by
  have noQuote : backslash ≠ quote := by decide
  cases h with
  | short known stands single =>
    intro rest
    simp only [List.cons_append, List.nil_append]
    rw [stringBody.eq_def]
    simp only [if_neg noQuote, if_true, known]
  | unit first second value control =>
    intro rest
    have short : isShortEscape 0x75 = false := by decide
    have zero : isHexDigit 0x30 = true := by decide
    simp only [List.cons_append, List.nil_append]
    rw [stringBody.eq_def]
    simp only [if_neg noQuote, if_true, short, zero, first, second, Bool.and_self]
    rfl
  | plain each => exact isBody_of_isPlain each

/-- **What is written for some characters is part of a string.** -/
theorem isBody_escape (cs : List Char) : IsBody (escape cs) := by
  induction cs with
  | nil => exact isBody_nil
  | cons c cs ih =>
    rw [escape, List.flatMap_cons, Utf8.encode_append]
    exact (escaped_escapeChar c).isBody.append ih

/-- A string ends at the first quote after its body. -/
theorem IsBody.stringBody_quote {body : Bytes} (h : IsBody body) (rest : Bytes) :
    stringBody (body ++ quote :: rest) = some (body, rest) := by
  have stops : stringBody (quote :: rest) = some ([], rest) := by
    rw [stringBody.eq_def]
    simp only [if_true]
  rw [h, stops, Option.map_some, List.append_nil]

/-! ## What a string spells -/

/-- Some bytes of a string stand for other bytes: whoever undoes the escapes goes past them. -/
def Spells (body bs : Bytes) : Prop :=
  ∀ rest, unescape (body ++ rest) = (unescape rest).map (bs ++ ·)

theorem spells_nil : Spells [] [] := fun rest => by simp

theorem Spells.append {first second bs bs' : Bytes} (h : Spells first bs)
    (h' : Spells second bs') : Spells (first ++ second) (bs ++ bs') := by
  intro rest
  rw [List.append_assoc, h, h', Option.map_map]
  congr 1
  funext more
  simp

theorem spells_of_isPlain {bs : Bytes} (plain : ∀ b ∈ bs, IsPlain b) : Spells bs bs := by
  induction bs with
  | nil => exact spells_nil
  | cons b bs ih =>
    have noBackslash := (plain b (List.mem_cons_self ..)).ne_backslash
    have single : Spells [b] [b] := fun rest => by
      rw [List.singleton_append, unescape.eq_def]
      simp only [if_neg noBackslash]
      rfl
    exact single.append (ih fun b' hb' => plain b' (List.mem_cons_of_mem _ hb'))

/-- What is written for a character stands for its bytes. -/
theorem Escaped.spells {c : Char} {bs : Bytes} (h : Escaped c bs) :
    Spells bs (String.utf8EncodeChar c) := by
  cases h with
  | short known stands single =>
    intro rest
    simp only [List.cons_append, List.nil_append]
    rw [unescape.eq_def, single]
    simp only [if_true, stands]
    rfl
  | unit first second value control =>
    intro rest
    have short : shortEscape? 0x75 = none := by decide
    have low : isLowUnit c.toNat = false := by
      simp [isLowUnit]
      omega
    have high : isHighUnit c.toNat = false := by
      simp [isHighUnit]
      omega
    simp only [List.cons_append, List.nil_append]
    rw [unescape.eq_def]
    simp only [if_true, short, value, low, high, Char.ofNat_toNat]
    rfl
  | plain each => exact spells_of_isPlain each

/-- **What is written for some characters spells them.** -/
theorem spells_escape (cs : List Char) : Spells (escape cs) (Utf8.encode cs) := by
  induction cs with
  | nil => exact spells_nil
  | cons c cs ih =>
    rw [escape, List.flatMap_cons, Utf8.encode_append, Utf8.encode_cons]
    exact (escaped_escapeChar c).spells.append ih

/-- **A string is read back.** -/
theorem bodyText?_escape (s : String) : bodyText? (escape s.toList) = some s := by
  have spelled := spells_escape s.toList []
  rw [List.append_nil, unescape, Option.map_some, List.append_nil] at spelled
  have read := Utf8.text_bytes s
  rw [Utf8.bytes] at read
  simp only [bodyText?, spelled, read]

/-- Characters that stand for themselves are written as they are. -/
theorem escape_of_forall {cs : List Char} (h : ∀ c ∈ cs, escapeChar c = [c]) :
    escape cs = Utf8.encode cs := by
  induction cs with
  | nil => rfl
  | cons c cs ih =>
    have others := ih fun c' hc' => h c' (List.mem_cons_of_mem _ hc')
    rw [escape] at others
    rw [escape, List.flatMap_cons, h c (List.mem_cons_self ..), List.singleton_append,
      Utf8.encode_cons, others, Utf8.encode_cons]

end Json

end PublicFunds
