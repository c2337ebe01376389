import PublicFunds.Json.Reader
import PublicFunds.Proofs.Json.Token

/-!
# A document that was written is read back

The reader goes through the tokens once, with a stack of what is open.  So what it does with the
tokens of one value can be said for any stack: it ends up where the complete value has been put in
its place on top of the stack.  For the items of a list and the fields of an object the same is said
of a stack on which some of them are already.

* `Json.Reader.run_spell`: the tokens of one value.
* `Json.parse_pretty`: a document is read back.
-/

namespace PublicFunds

namespace Json

namespace Reader

theorem run_cons {reader next : Reader} {token : Token} (h : reader.step token = some next)
    (ts : List Token) : reader.run (token :: ts) = next.run ts := by
  rw [run, h]

/-- Where a list has just been opened, any value may come. -/
theorem run_firstItem (j : Json) (opened : List Frame) (rest : List Token) :
    run ⟨.firstItem, opened⟩ (spell j ++ rest) = run ⟨.value, opened⟩ (spell j ++ rest) := by
  cases j <;> rw [spell] <;> rfl

/-- Reading some tokens puts a value in its place. -/
def Takes (ts : List Token) (j : Json) : Prop :=
  ∀ opened next rest, accept j opened = some next →
    run ⟨.value, opened⟩ (ts ++ rest) = next.run rest

/-- A value of one token. -/
theorem takes_single {token : Token} {j : Json}
    (h : ∀ opened, step ⟨.value, opened⟩ token = accept j opened) : Takes [token] j :=
  fun opened _ rest accepted => run_cons ((h opened).trans accepted) rest

/-- The items of a list, when some are there already. -/
theorem run_spellItems {items : List Json} (each : ∀ j ∈ items, Takes (spell j) j)
    (filled : items ≠ []) (sofar : List Json) {opened : List Frame} {next : Reader}
    (accepted : accept (.array (sofar.reverse ++ items)) opened = some next)
    {expect : Expect} (begun : expect = .value ∨ expect = .firstItem) (rest : List Token) :
    run ⟨expect, .items sofar :: opened⟩ (spellItems items ++ .closeArray :: rest) =
      next.run rest := by
  induction items generalizing sofar expect with
  | nil => exact absurd rfl filled
  | cons item items ih =>
    have first := each item (List.mem_cons_self ..) (.items sofar :: opened)
      ⟨.divider, .items (item :: sofar) :: opened⟩
    have begins : ∀ ts, run ⟨expect, .items sofar :: opened⟩ (spell item ++ ts) =
        run ⟨.value, .items sofar :: opened⟩ (spell item ++ ts) := by
      intro ts
      rcases begun with rfl | rfl
      · rfl
      · exact run_firstItem item _ ts
    cases items with
    | nil =>
      rw [spellItems, begins, first _ rfl]
      refine run_cons ?_ rest
      rw [← accepted, ← List.reverse_cons]
      rfl
    | cons second items =>
      have divided (ts : List Token) :
          run ⟨.divider, .items (item :: sofar) :: opened⟩ (.comma :: ts) =
            run ⟨.value, .items (item :: sofar) :: opened⟩ ts := run_cons rfl ts
      rw [spellItems, List.append_assoc, begins, first _ rfl]
      · rw [List.cons_append, divided]
        refine ih (fun j hj => each j (List.mem_cons_of_mem _ hj)) (by simp) _ ?_ (.inl rfl)
        rw [← accepted, List.reverse_cons, List.append_assoc]
        rfl
      · simp

/-- The fields of an object, when some are there already. -/
theorem run_spellFields {fields : List (Bytes × Json)}
    (each : ∀ f ∈ fields, Takes (spell f.2) f.2) (filled : fields ≠ [])
    (sofar : List (Bytes × Json)) {opened : List Frame} {next : Reader}
    (accepted : accept (.object (sofar.reverse ++ fields)) opened = some next)
    {expect : Expect} (named : expect = .name ∨ expect = .firstName) (rest : List Token) :
    run ⟨expect, .fields sofar :: opened⟩ (spellFields fields ++ .closeObject :: rest) =
      next.run rest := by
  induction fields generalizing sofar expect with
  | nil => exact absurd rfl filled
  | cons field fields ih =>
    obtain ⟨name, value⟩ := field
    have first := each (name, value) (List.mem_cons_self ..) (.member sofar name :: opened)
      ⟨.divider, .fields ((name, value) :: sofar) :: opened⟩
    have begins : ∀ ts, run ⟨expect, .fields sofar :: opened⟩ (.string name :: .colon :: ts) =
        run ⟨.value, .member sofar name :: opened⟩ ts := by
      intro ts
      rcases named with rfl | rfl <;> rfl
    cases fields with
    | nil =>
      rw [spellFields, List.cons_append, List.cons_append, begins, first _ rfl]
      refine run_cons ?_ rest
      rw [← accepted, ← List.reverse_cons]
      rfl
    | cons second fields =>
      have divided (ts : List Token) :
          run ⟨.divider, .fields ((name, value) :: sofar) :: opened⟩ (.comma :: ts) =
            run ⟨.name, .fields ((name, value) :: sofar) :: opened⟩ ts := run_cons rfl ts
      rw [spellFields, List.cons_append, List.cons_append, List.append_assoc, begins, first _ rfl]
      · rw [List.cons_append, divided]
        refine ih (fun f hf => each f (List.mem_cons_of_mem _ hf)) (by simp) _ ?_ (.inl rfl)
        rw [← accepted, List.reverse_cons, List.append_assoc]
        rfl
      · simp

/-- **The tokens of a value put it in its place.** -/
theorem takes_spell {j : Json} (h : Spelled j) : Takes (spell j) j := by
  induction h with
  | null =>
    rw [spell]
    exact takes_single fun _ => rfl
  | flag b =>
    rw [spell]
    exact takes_single fun _ => rfl
  | number one each =>
    rw [spell]
    exact takes_single fun _ => rfl
  | string body =>
    rw [spell]
    exact takes_single fun _ => rfl
  | @array items each ih =>
    intro opened next rest accepted
    have start : step ⟨.value, opened⟩ .openArray = some ⟨.firstItem, .items [] :: opened⟩ := rfl
    rw [spell, List.cons_append, List.append_assoc, List.singleton_append, run_cons start]
    cases items with
    | nil =>
      have finish : step ⟨.firstItem, .items [] :: opened⟩ .closeArray = some next := accepted
      rw [spellItems]
      exact run_cons finish rest
    | cons item items => exact run_spellItems ih (by simp) [] accepted (.inr rfl) rest
  | @object fields names each ih =>
    intro opened next rest accepted
    have start : step ⟨.value, opened⟩ .openObject = some ⟨.firstName, .fields [] :: opened⟩ := rfl
    rw [spell, List.cons_append, List.append_assoc, List.singleton_append, run_cons start]
    cases fields with
    | nil =>
      have finish : step ⟨.firstName, .fields [] :: opened⟩ .closeObject = some next := accepted
      rw [spellFields]
      exact run_cons finish rest
    | cons field fields => exact run_spellFields ih (by simp) [] accepted (.inr rfl) rest

end Reader

/-- **A document that was written is read back.** -/
theorem parse_pretty {j : Json} (h : Spelled j) : parse j.pretty = some j := by
  have read := Reader.takes_spell h [] ⟨.finish j, []⟩ [] rfl
  rw [List.append_nil, Reader.run] at read
  simp only [parse, tokens_pretty h, Option.bind_some, ofTokens?, Reader.start, read]

end Json

end PublicFunds
