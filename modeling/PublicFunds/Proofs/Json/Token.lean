import PublicFunds.Proofs.Json.Text

/-!
# The tokens of a text that was written

A text that was written line by line is divided into the tokens that it was put together from.  The
lines and blanks between them are dropped, and the only thing to look out for is where a token ends.
A string ends at its quote and a word has its length, but a number goes on as long as there are
characters that numbers are made of.  So what is written behind a value must not begin with one.

* `Json.Spelled`: a value whose numbers are numbers, and whose strings end where they should.
* `Json.spell`: the tokens of a value.
* `Json.Yields`: what a piece of text is divided into.
* `Json.yields_prettyAt`: what the text of a value is divided into.
-/

namespace PublicFunds

namespace Json

/-- A value whose numbers are numbers and whose strings, names included, end where they should. -/
inductive Spelled : Json → Prop where
  | null : Spelled .null
  | flag (b : Bool) : Spelled (.flag b)
  | number {digits : Bytes} (one : isNumber digits = true)
      (each : ∀ b ∈ digits, isNumberByte b = true) : Spelled (.number digits)
  | string {body : Bytes} (h : IsBody body) : Spelled (.string body)
  | array {items : List Json} (each : ∀ j ∈ items, Spelled j) : Spelled (.array items)
  | object {fields : List (Bytes × Json)} (names : ∀ f ∈ fields, IsBody f.1)
      (each : ∀ f ∈ fields, Spelled f.2) : Spelled (.object fields)

/-! ## The tokens of a value -/

mutual

/-- The tokens of a value. -/
def spell : Json → List Token
  | .null => [.null]
  | .flag b => [.flag b]
  | .number digits => [.number digits]
  | .string body => [.string body]
  | .array items => .openArray :: (spellItems items ++ [.closeArray])
  | .object fields => .openObject :: (spellFields fields ++ [.closeObject])

/-- The tokens of values divided by commas. -/
def spellItems : List Json → List Token
  | [] => []
  | [item] => spell item
  | item :: rest => spell item ++ .comma :: spellItems rest

/-- The tokens of named values divided by commas. -/
def spellFields : List (Bytes × Json) → List Token
  | [] => []
  | [(name, value)] => .string name :: .colon :: spell value
  | (name, value) :: rest => .string name :: .colon :: (spell value ++ .comma :: spellFields rest)

end

/-! ## Pieces of text -/

/-- With `rest` behind it, a piece of text is divided into some tokens. -/
def Yields (text : Bytes) (ts : List Token) (rest : Bytes) : Prop :=
  tokens (text ++ rest) = (tokens rest).map (ts ++ ·)

namespace Yields

variable {first second rest : Bytes} {ts us : List Token}

theorem nil (rest : Bytes) : Yields [] [] rest := by simp [Yields]

theorem append (h : Yields first ts (second ++ rest)) (h' : Yields second us rest) :
    Yields (first ++ second) (ts ++ us) rest := by
  unfold Yields at *
  rw [List.append_assoc, h, h', Option.map_map]
  congr 1
  funext more
  simp

/-- Behind a piece there may be one that is dropped. -/
theorem append_nil (h : Yields first ts (second ++ rest)) (h' : Yields second [] rest) :
    Yields (first ++ second) ts rest := by
  simpa using h.append h'

end Yields

/-- Blanks are dropped. -/
theorem tokens_of_isBlank {b : UInt8} (h : isBlank b = true) (bs : Bytes) :
    tokens (b :: bs) = tokens bs := by
  rw [tokens, if_pos h]

/-- The first token is split off. -/
theorem tokens_of_firstToken {b : UInt8} {bs rest : Bytes} {token : Token}
    (h : isBlank b = false) (first : firstToken b bs = some (token, rest)) :
    tokens (b :: bs) = (tokens rest).map (token :: ·) := by
  rw [tokens, if_neg (by simp [h])]
  split
  · next none =>
    rw [first] at none
    cases none
  · next same =>
    rw [first] at same
    cases same
    rfl

/-- A new line is dropped with the blanks at its start. -/
theorem yields_startLine (depth : Nat) (rest : Bytes) : Yields (startLine depth) [] rest := by
  have blanks : ∀ n, tokens (List.replicate n blank ++ rest) = tokens rest := by
    intro n
    induction n with
    | zero => rfl
    | succ n ih => rw [List.replicate_succ, List.cons_append, tokens_of_isBlank (by decide), ih]
  rw [Yields, startLine, List.cons_append, tokens_of_isBlank (by decide), blanks]
  simp

/-- A blank is dropped. -/
theorem yields_blank (rest : Bytes) : Yields [blank] [] rest := by
  rw [Yields, List.singleton_append, tokens_of_isBlank (by decide)]
  simp

/-- A bracket, a brace, a comma or a colon is a token. -/
theorem yields_mark {b : UInt8} {token : Token} (h : isBlank b = false)
    (mark : Token.ofByte? b = some token) (rest : Bytes) : Yields [b] [token] rest := by
  have first : firstToken b rest = some (token, rest) := by simp only [firstToken, mark]
  exact tokens_of_firstToken h first

/-- A string between its quotes is a token. -/
theorem yields_inQuotes {body : Bytes} (h : IsBody body) (rest : Bytes) :
    Yields (inQuotes body) [.string body] rest := by
  have mark : Token.ofByte? quote = none := by decide
  have first : firstToken quote (body ++ quote :: rest) = some (.string body, rest) := by
    simp only [firstToken, mark, if_true, h.stringBody_quote, Option.map_some]
  rw [Yields, inQuotes, List.cons_append, List.append_assoc]
  exact tokens_of_firstToken (by decide) first

theorem yields_nullWord (rest : Bytes) : Yields nullWord [.null] rest :=
  tokens_of_firstToken (by decide) rfl

theorem yields_flagWord (b : Bool) (rest : Bytes) : Yields (flagWord b) [.flag b] rest := by
  cases b <;> exact tokens_of_firstToken (by decide) rfl

/-! ## Numbers -/

/-- Some text does not begin with a character that numbers are made of. -/
def Stops (rest : Bytes) : Prop := ∀ b ∈ rest.head?, isNumberByte b = false

theorem stops_cons {b : UInt8} (h : isNumberByte b = false) (rest : Bytes) : Stops (b :: rest) := by
  rintro _ ⟨⟩
  exact h

/-- A character that numbers are made of begins no other token. -/
theorem firstToken_of_isNumberByte {b : UInt8} (h : isNumberByte b = true) (bs : Bytes) :
    isBlank b = false ∧ firstToken b bs =
      if isNumber ((b :: bs).takeWhile isNumberByte) then
        some (.number ((b :: bs).takeWhile isNumberByte), bs.dropWhile isNumberByte)
      else none := by
  have other : ∀ c, isNumberByte c = false → b ≠ c := by
    rintro c hc rfl
    rw [h] at hc
    cases hc
  constructor
  · simp [isBlank, other 0x20 rfl, other 0x09 rfl, other 0x0A rfl, other 0x0D rfl]
  · have mark : Token.ofByte? b = none := by
      simp [Token.ofByte?, other openBracket rfl, other closeBracket rfl, other openBrace rfl,
        other closeBrace rfl, other comma rfl, other colon rfl]
    simp only [firstToken, mark, if_neg (other quote rfl), if_neg (other 0x6E rfl),
      if_neg (other 0x74 rfl), if_neg (other 0x66 rfl)]

/-- A number is a token if it stops where it should. -/
theorem yields_number {digits : Bytes} (one : isNumber digits = true)
    (each : ∀ b ∈ digits, isNumberByte b = true) {rest : Bytes} (stops : Stops rest) :
    Yields digits [.number digits] rest := by
  have taken : (digits ++ rest).takeWhile isNumberByte = digits := by
    rw [List.takeWhile_append_of_pos each]
    cases rest with
    | nil => simp
    | cons b rest => simp [stops b rfl]
  have dropped : (digits ++ rest).dropWhile isNumberByte = rest := by
    rw [List.dropWhile_append_of_pos each]
    cases rest with
    | nil => rfl
    | cons b rest => simp [stops b rfl]
  cases digits with
  | nil => cases one
  | cons b bs =>
    have number := each b (List.mem_cons_self ..)
    obtain ⟨notBlank, first⟩ := firstToken_of_isNumberByte number (bs ++ rest)
    rw [List.cons_append] at taken dropped
    rw [List.dropWhile_cons_of_pos number] at dropped
    rw [taken, dropped, if_pos one] at first
    exact tokens_of_firstToken notBlank first

/-! ## Values -/

theorem stops_startLine (depth : Nat) (rest : Bytes) : Stops (startLine depth ++ rest) :=
  stops_cons (by decide) _

theorem yields_prettyItems {items : List Json}
    (each : ∀ j ∈ items, ∀ depth rest, Stops rest → Yields (prettyAt depth j) (spell j) rest)
    (depth : Nat) {rest : Bytes} (stops : Stops rest) :
    Yields (prettyItems depth items) (spellItems items) rest := by
  induction items with
  | nil => exact .nil rest
  | cons item items ih =>
    have line := yields_startLine depth
    have first := each item (List.mem_cons_self ..) depth
    cases items with
    | nil =>
      rw [prettyItems, spellItems]
      exact (line _).append (first rest stops)
    | cons next items =>
      have others := ih fun j hj => each j (List.mem_cons_of_mem _ hj)
      have divided : Yields ([comma] ++ prettyItems depth (next :: items))
          ([.comma] ++ spellItems (next :: items)) rest :=
        (yields_mark (by decide) (by decide) _).append others
      rw [prettyItems, spellItems]
      · refine ((line _).append (first _ ?_)).append divided
        exact stops_cons (by decide) _
      · simp
      · simp

/-- A named value on its line. -/
theorem yields_member {name : Bytes} {value : Json} {depth : Nat} {rest : Bytes}
    (body : IsBody name) (each : Yields (prettyAt depth value) (spell value) rest) :
    Yields (startLine depth ++ inQuotes name ++ [colon, blank] ++ prettyAt depth value)
      (.string name :: .colon :: spell value) rest := by
  have colon : Yields [colon, blank] [.colon] (prettyAt depth value ++ rest) :=
    (yields_mark (by decide) (by decide) _).append_nil (yields_blank _)
  exact (((yields_startLine depth _).append (yields_inQuotes body _)).append colon).append each

theorem yields_prettyFields {fields : List (Bytes × Json)} (names : ∀ f ∈ fields, IsBody f.1)
    (each : ∀ f ∈ fields, ∀ depth rest, Stops rest → Yields (prettyAt depth f.2) (spell f.2) rest)
    (depth : Nat) {rest : Bytes} (stops : Stops rest) :
    Yields (prettyFields depth fields) (spellFields fields) rest := by
  induction fields with
  | nil => exact .nil rest
  | cons field fields ih =>
    obtain ⟨name, value⟩ := field
    have body := names (name, value) (List.mem_cons_self ..)
    have first := each (name, value) (List.mem_cons_self ..) depth
    cases fields with
    | nil =>
      rw [prettyFields, spellFields]
      exact yields_member body (first rest stops)
    | cons next fields =>
      have others := ih (fun f hf => names f (List.mem_cons_of_mem _ hf))
        fun f hf => each f (List.mem_cons_of_mem _ hf)
      have divided : Yields ([comma] ++ prettyFields depth (next :: fields))
          ([.comma] ++ spellFields (next :: fields)) rest :=
        (yields_mark (by decide) (by decide) _).append others
      rw [prettyFields, spellFields]
      · refine (yields_member body (first _ ?_)).append divided
        exact stops_cons (by decide) _
      · simp
      · simp

/-- **The text of a value is divided into its tokens**, at whatever depth it stands. -/
theorem yields_prettyAt {j : Json} (h : Spelled j) :
    ∀ depth rest, Stops rest → Yields (prettyAt depth j) (spell j) rest := by
  induction h with
  | null =>
    intro depth rest stops
    rw [prettyAt, spell]
    exact yields_nullWord rest
  | flag b =>
    intro depth rest stops
    rw [prettyAt, spell]
    exact yields_flagWord b rest
  | number one each =>
    intro depth rest stops
    rw [prettyAt, spell]
    exact yields_number one each stops
  | string body =>
    intro depth rest stops
    rw [prettyAt, spell]
    exact yields_inQuotes body rest
  | @array items each ih =>
    intro depth rest stops
    have opened : ∀ rest, Yields [openBracket] [.openArray] rest :=
      yields_mark (by decide) (by decide)
    have closed : Yields [closeBracket] [.closeArray] rest :=
      yields_mark (by decide) (by decide) rest
    cases items with
    | nil =>
      rw [prettyAt, spell]
      exact (opened _).append closed
    | cons item items =>
      have inside :=
        yields_prettyItems ih (depth + 1) (stops_startLine depth (closeBracket :: rest))
      rw [prettyAt, spell]
      · exact (opened _).append ((inside.append_nil (yields_startLine depth _)).append closed)
      · simp
  | @object fields names each ih =>
    intro depth rest stops
    have opened : ∀ rest, Yields [openBrace] [.openObject] rest :=
      yields_mark (by decide) (by decide)
    have closed : Yields [closeBrace] [.closeObject] rest :=
      yields_mark (by decide) (by decide) rest
    cases fields with
    | nil =>
      rw [prettyAt, spell]
      exact (opened _).append closed
    | cons field fields =>
      have inside := yields_prettyFields names ih (depth + 1)
        (stops_startLine depth (closeBrace :: rest))
      rw [prettyAt, spell]
      · exact (opened _).append ((inside.append_nil (yields_startLine depth _)).append closed)
      · simp

/-- **The tokens of a document that was written.** -/
theorem tokens_pretty {j : Json} (h : Spelled j) : tokens j.pretty = some (spell j) := by
  have whole := yields_prettyAt h 0 [] (fun _ none => nomatch none)
  rw [Yields, List.append_nil, tokens, Option.map_some, List.append_nil] at whole
  exact whole

end Json

end PublicFunds
