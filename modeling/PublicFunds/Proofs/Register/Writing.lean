import Mathlib.Logic.Relation
import PublicFunds.Proofs.Register.Sound

/-!
# What a write does to the contents of a register

All that is ever written to a register in use is one record.  Either it gets the next id, or it is
written under an id that was given out before, and takes the place of the record that is there.  In
no case is a record taken away, and an id that was given out stays so.

Which records may take the place of which depends on the kind.  Some are replaced by anything with
their id; those with a lifecycle are only revised.

* `Register.Contents.Writes`: a write, with the id that it gives out.
* `Register.Contents.Outlives`: later contents, in which all records are still there.
* `Register.Keeps.unique`: a store has one contents.
-/

namespace PublicFunds

namespace Register

variable {ρ : Type} [Record ρ]

namespace Contents

/-- **A write**, as a change of what a register holds, and the id that it gives out, if it does.
`again x y` says that `y` may take the place of `x`. -/
inductive Writes (again : ρ → ρ → Prop) (c : Contents ρ) : Option RecordId → Contents ρ → Prop where
  /-- There is nothing to write. -/
  | nothing : Writes again c none c
  /-- A record is written under an id that was given out. -/
  | known {y : ρ} (given : Record.id y ≤ c.last)
      (replaces : ∀ x, c.records.get? (Record.id y) = some x → again x y) :
      Writes again c none (c.put y)
  /-- A record is written under the next id, which no record has. -/
  | next {y : ρ} (up : c.last < c.last + 1) (free : c.records.get? (c.last + 1) = none)
      (own : Record.id y = c.last + 1) :
      Writes again c (some (c.last + 1)) (Contents.put { c with last := c.last + 1 } y)

/-- Later contents: ids that were given out stay so, and every record is still under its id, or what
has become of it is. -/
structure Outlives (becomes : ρ → ρ → Prop) (c c' : Contents ρ) : Prop where
  last_le : c.last ≤ c'.last
  stays : ∀ id x, c.records.get? id = some x → ∃ y, c'.records.get? id = some y ∧ becomes x y

variable {again : ρ → ρ → Prop} {c c' : Contents ρ} {new : Option RecordId}

/-- The last id after a write is the one that it gives out, or it is what it was. -/
theorem Writes.last_eq (h : c.Writes again new c') : c'.last = new.getD c.last := by
  cases h with
  | nothing => rfl
  | known given replaces => rfl
  | next up free own => rfl

/-- The id that a write gives out is the next one.  No record has it before, and one has it
afterwards. -/
theorem Writes.new_eq (h : c.Writes again new c') {id : RecordId} (given : id ∈ new) :
    id = c.last + 1 ∧ c.last < c.last + 1 ∧ c.records.get? id = none ∧
      (c'.records.get? id).isSome = true := by
  cases h with
  | nothing => cases given
  | known given' replaces => cases given
  | @next y up free own =>
    cases given
    refine ⟨rfl, up, free, ?_⟩
    rw [← own, put, OrderedMap.get?_insert_self]
    rfl

/-- **A write takes no record away.** -/
theorem Writes.outlives (h : c.Writes again new c') :
    c.Outlives (Relation.ReflGen again) c' := by
  cases h with
  | nothing => exact ⟨UInt64.le_refl _, fun id x found => ⟨x, found, .refl⟩⟩
  | @known y given replaces =>
    refine ⟨UInt64.le_refl _, fun id x found => ?_⟩
    by_cases here : id = Record.id y
    · subst here
      exact ⟨y, OrderedMap.get?_insert_self .., .single (replaces x found)⟩
    · exact ⟨x, (OrderedMap.get?_insert_of_ne _ here _).trans found, .refl⟩
  | @next y up free own =>
    refine ⟨UInt64.le_of_lt up, fun id x found => ⟨x, ?_, .refl⟩⟩
    have here : id ≠ Record.id y := by
      rintro rfl
      rw [own, free] at found
      cases found
    exact (OrderedMap.get?_insert_of_ne _ here _).trans found

namespace Outlives

variable {c'' : Contents ρ} {step : ρ → ρ → Prop}

omit [Record ρ]

/-- Contents outlive themselves. -/
theorem refl (c : Contents ρ) : c.Outlives (Relation.ReflTransGen step) c :=
  ⟨UInt64.le_refl _, fun _ x found => ⟨x, found, .refl⟩⟩

/-- What outlives later contents outlives the earlier ones. -/
theorem tail (h : c.Outlives (Relation.ReflTransGen step) c')
    (next : c'.Outlives (Relation.ReflGen step) c'') :
    c.Outlives (Relation.ReflTransGen step) c'' where
  last_le := UInt64.le_trans h.last_le next.last_le
  stays id x found := by
    obtain ⟨y, found', became⟩ := h.stays id x found
    obtain ⟨z, found'', becomes⟩ := next.stays id y found'
    exact ⟨z, found'', became.trans becomes.to_reflTransGen⟩

/-- Whatever holds nothing is outlived by everything. -/
theorem of_empty (c : Contents ρ) : Contents.empty.Outlives (Relation.ReflGen step) c where
  last_le := UInt64.le_iff_toNat_le.2 (Nat.zero_le _)
  stays _ _ found := nomatch found

end Outlives

end Contents

namespace Keeps

variable [Vetted ρ] {r : Register ρ} {format : AddressFormat} {store : Store} {c : Contents ρ}
  {batch : Batch}

/-- **A store has one contents.** -/
theorem unique [FaithfulRecord ρ] {c' : Contents ρ} (h : r.Keeps format store.entries c)
    (h' : r.Keeps format store.entries c') (within : store.entries.Within (Bytes.reach 8)) :
    c = c' := by
  have mended : ∀ {d}, r.Keeps format store.entries d →
      r.Keeps format store.mended.entries d := id
  have healthy := store.healthy_mended
  have last := ((mended h).last healthy).symm.trans ((mended h').last healthy)
  have records : c.records = c'.records := OrderedMap.ext_get? fun id => Except.ok.inj
    (((mended h).find within healthy id).symm.trans ((mended h').find within healthy id))
  cases c
  cases c'
  cases last
  cases records
  rfl

/-- A new record is a write that gives out its id. -/
theorem add_writes [VettedApart ρ] (h : r.Keeps format store.entries c)
    (apart : r.records ≠ r.counter) {x y : ρ} (new : Record.id x = 0)
    (checked : Vetted.checkFields format x = .ok ()) (planned : r.add store x = .ok (y, batch))
    (again : ρ → ρ → Prop) :
    Record.id y = c.last + 1 ∧ ∃ c', c.Writes again (some (c.last + 1)) c' ∧
      r.Keeps format (store.entries.apply batch) c' := by
  obtain ⟨up, rfl, -, keeps⟩ := h.add apart new checked planned
  have own := Record.id_withId x (c.last + 1)
  exact ⟨own, _, .next up (h.get?_eq_none up) own, keeps⟩

/-- A revision is a write that gives out no id. -/
theorem revise_writes {σ : Type} [Lifecycle σ] [DecidableEq σ] [Governed ρ σ] [FaithfulRecord ρ]
    (h : r.Keeps format store.entries c) (within : store.entries.Within (Bytes.reach 8))
    (revised : r.RevisesIn format store batch) :
    ∃ c', c.Writes Governed.Revises none c' ∧ r.Keeps format (store.entries.apply batch) c' := by
  obtain ⟨-, c', keeps, rfl | ⟨x, y, found, revises, rfl⟩⟩ := h.revise within revised r.records
  · exact ⟨_, .nothing, keeps⟩
  · refine ⟨_, .known ?_ fun x' found' => ?_, keeps⟩
    · exact (h.valid _ x found).2.2.1
    · cases found.symm.trans found'
      exact revises

end Keeps

end Register

end PublicFunds
