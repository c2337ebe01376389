import PublicFunds.Json.Basic

/-!
# The tokens of a JSON text

A text is divided into tokens before its structure is looked at.  Blanks separate tokens and are
dropped; there are four of them.  A string token ends at the first quote that is not escaped; what
is inside must not hold control characters, and each escape must be one of the eight short ones or
name a code unit by four hexadecimal digits.  Whether the code units make up characters, and
whether the bytes are UTF-8, is not asked here.

* `Json.tokens`: the tokens of a text, unless something in it is no token.
-/

namespace PublicFunds

namespace Json

/-- A part of a JSON text that has no parts. -/
inductive Token where
  | openArray
  | closeArray
  | openObject
  | closeObject
  | comma
  | colon
  | null
  | flag (value : Bool)
  | number (digits : Bytes)
  | string (body : Bytes)
  deriving DecidableEq, Repr

/-! ## Classes of bytes -/

/-- The blanks of JSON: space, tab, line feed and carriage return. -/
def isBlank (b : UInt8) : Bool := b == 0x20 || b == 0x09 || b == 0x0A || b == 0x0D

def isDigit (b : UInt8) : Bool := 0x30 ≤ b.toNat && b.toNat ≤ 0x39

def isHexDigit (b : UInt8) : Bool :=
  isDigit b || (0x41 ≤ b.toNat && b.toNat ≤ 0x46) || (0x61 ≤ b.toNat && b.toNat ≤ 0x66)

/-- The characters that numbers are made of. -/
def isNumberByte (b : UInt8) : Bool :=
  isDigit b || b == 0x2B || b == 0x2D || b == 0x2E || b == 0x45 || b == 0x65

/-- The characters that make a short escape. -/
def isShortEscape (b : UInt8) : Bool :=
  b == 0x22 || b == 0x5C || b == 0x2F || b == 0x62 || b == 0x66 || b == 0x6E || b == 0x72 ||
    b == 0x74

/-! ## Numbers -/

/-- At least one digit, and nothing after the digits but `tail`. -/
def digitsThen (tail : Bytes → Bool) : Bytes → Bool
  | [] => false
  | b :: rest => isDigit b && tail (rest.dropWhile isDigit)

/-- Nothing, or an exponent. -/
def isExponentTail : Bytes → Bool
  | [] => true
  | b :: rest =>
    (b == 0x45 || b == 0x65) &&
      match rest with
      | [] => false
      | s :: digits =>
        digitsThen List.isEmpty (if s == 0x2B || s == 0x2D then digits else s :: digits)

/-- Nothing, or a fraction, or an exponent, or both. -/
def isFractionTail : Bytes → Bool
  | [] => true
  | b :: rest => if b == 0x2E then digitsThen isExponentTail rest else isExponentTail (b :: rest)

/-- A number without a sign: zero stands alone before the fraction. -/
def isUnsigned : Bytes → Bool
  | [] => false
  | b :: rest =>
    if b == 0x30 then isFractionTail rest else digitsThen isFractionTail (b :: rest)

/-- A number. -/
def isNumber : Bytes → Bool
  | [] => false
  | b :: rest => if b == 0x2D then isUnsigned rest else isUnsigned (b :: rest)

/-! ## Strings -/

/-- The body of a string whose opening quote has been read, and what follows its closing quote. -/
def stringBody : Bytes → Option (Bytes × Bytes)
  | [] => none
  | b :: rest =>
    if b = quote then some ([], rest)
    else if b = backslash then
      match rest with
      | [] => none
      | e :: rest =>
        if isShortEscape e then
          (stringBody rest).map fun parts => (b :: e :: parts.1, parts.2)
        else if e = 0x75 then
          match rest with
          | h₁ :: h₂ :: h₃ :: h₄ :: rest =>
            if isHexDigit h₁ && isHexDigit h₂ && isHexDigit h₃ && isHexDigit h₄ then
              (stringBody rest).map fun parts =>
                (b :: e :: h₁ :: h₂ :: h₃ :: h₄ :: parts.1, parts.2)
            else none
          | _ => none
        else none
    else if b.toNat < 0x20 then none
    else (stringBody rest).map fun parts => (b :: parts.1, parts.2)

/-- A string takes up at least its closing quote. -/
theorem length_of_stringBody {bs body rest : Bytes} (h : stringBody bs = some (body, rest)) :
    rest.length < bs.length := by
  fun_induction stringBody bs generalizing body rest with
  | case1 => contradiction
  | case2 => cases h; simp
  | case3 => contradiction
  | case4 _ _ _ _ ih =>
    obtain ⟨⟨body', rest'⟩, hp, he⟩ := Option.map_eq_some_iff.1 h
    cases he
    have := ih hp
    simp only [List.length_cons]
    omega
  | case5 _ _ _ _ _ _ _ _ ih =>
    obtain ⟨⟨body', rest'⟩, hp, he⟩ := Option.map_eq_some_iff.1 h
    cases he
    have := ih hp
    simp only [List.length_cons]
    omega
  | case6 => contradiction
  | case7 => contradiction
  | case8 => contradiction
  | case9 => contradiction
  | case10 _ _ _ _ _ ih =>
    obtain ⟨⟨body', rest'⟩, hp, he⟩ := Option.map_eq_some_iff.1 h
    cases he
    have := ih hp
    simp only [List.length_cons]
    omega

/-! ## Texts -/

/-- The token that a single character is. -/
def Token.ofByte? (b : UInt8) : Option Token :=
  if b = openBracket then some .openArray
  else if b = closeBracket then some .closeArray
  else if b = openBrace then some .openObject
  else if b = closeBrace then some .closeObject
  else if b = Json.comma then some .comma
  else if b = Json.colon then some .colon
  else none

/-- The first token of a text that does not start with a blank, and what follows it. -/
def firstToken (b : UInt8) (rest : Bytes) : Option (Token × Bytes) :=
  match Token.ofByte? b with
  | some token => some (token, rest)
  | none =>
    if b = quote then (stringBody rest).map fun parts => (.string parts.1, parts.2)
    else if b = 0x6E then
      if [0x75, 0x6C, 0x6C].isPrefixOf rest then some (.null, rest.drop 3) else none
    else if b = 0x74 then
      if [0x72, 0x75, 0x65].isPrefixOf rest then some (.flag true, rest.drop 3) else none
    else if b = 0x66 then
      if [0x61, 0x6C, 0x73, 0x65].isPrefixOf rest then some (.flag false, rest.drop 4) else none
    else if isNumber ((b :: rest).takeWhile isNumberByte) then
      some (.number ((b :: rest).takeWhile isNumberByte), rest.dropWhile isNumberByte)
    else none

/-- A token takes up at least one character. -/
theorem length_of_firstToken {b : UInt8} {bs rest : Bytes} {token : Token}
    (h : firstToken b bs = some (token, rest)) : rest.length < (b :: bs).length := by
  unfold firstToken at h
  split at h
  · cases h; simp
  · split at h
    · obtain ⟨⟨body, rest'⟩, hp, he⟩ := Option.map_eq_some_iff.1 h
      cases he
      have := length_of_stringBody hp
      simp only [List.length_cons]
      omega
    · have shorter : ∀ {t : Token} {r : Bytes}, r <:+ bs → some (t, r) = some (token, rest) →
          rest.length < (b :: bs).length := fun hr h => by
        cases h
        have := hr.length_le
        simp only [List.length_cons]
        omega
      repeat' split at h
      all_goals first
        | exact shorter (List.drop_suffix _ _) h
        | exact shorter (List.dropWhile_suffix _) h
        | contradiction

/-- The tokens of a text. -/
def tokens : Bytes → Option (List Token)
  | [] => some []
  | b :: bs =>
    if isBlank b then tokens bs
    else
      match _h : firstToken b bs with
      | none => none
      | some (token, rest) => (tokens rest).map (token :: ·)
termination_by bs => bs.length
decreasing_by
  · simp
  · exact length_of_firstToken _h

end Json

end PublicFunds
