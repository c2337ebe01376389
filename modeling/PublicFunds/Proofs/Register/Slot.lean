import PublicFunds.Proofs.Register.Keyed
import PublicFunds.Proofs.Register.Orderly

/-!
# Places inside a store

The store of a book is one map from byte strings to byte strings.  What the book keeps there has its
places: a record stands under its id, the last id in a place of its own, and an index entry stands
under its pair.  Beside the register there may be totals.  Two places never have one key, as long as
the pairs are short enough for their lengths to be stored.

Here it is said, for every change of a register, at which places its batch has edits.  Whatever is
not at one of these keeps its value.

* `Slot`, `Register.keyOf`: places and their keys.
* `Batch.OnlyAt`: a batch that has edits at some places only.
* `Register.Entering`: the places that entering a record under its pair has to do with.
* `Register.onlyAt_add`, `Register.onlyAt_advance`, `Register.onlyAt_endorse`,
  `Register.Orderly.onlyAt_enter`: the places of each change.
-/

namespace PublicFunds

/-- A place in the store of a book. -/
inductive Slot where
  /-- That of the record with an id. -/
  | record (id : RecordId)
  /-- That of the last id. -/
  | last
  /-- That of the index entry for a pair. -/
  | pair (p : PairKey)
  /-- That of what has been disbursed for a procurement. -/
  | total (procurement : RecordId)
  deriving DecidableEq, Repr

namespace Slot

/-- The lengths of the names in a place can be stored. -/
def Short : Slot → Prop
  | .pair p => p.Short
  | _ => True

/-- The places of a new record: its own, and that of the last id. -/
inductive New (id : RecordId) : Slot → Prop where
  | record : New id (.record id)
  | last : New id .last

theorem New.short {id : RecordId} {s : Slot} (h : New id s) : s.Short := by
  cases h <;> trivial

end Slot

/-! ## Batches at some places -/

/-- All edits of a batch are at places with some property. -/
def Batch.OnlyAt (keyOf : Slot → Option Bytes) (reached : Slot → Prop) (batch : Batch) : Prop :=
  ∀ e ∈ batch, ∃ s, reached s ∧ keyOf s = some e.key

namespace Batch.OnlyAt

variable {keyOf : Slot → Option Bytes} {reached wider : Slot → Prop} {first second : Batch}

theorem nil : OnlyAt keyOf reached [] := fun _ he => absurd he List.not_mem_nil

theorem single {e : Edit} {s : Slot} (here : reached s) (key : keyOf s = some e.key) :
    OnlyAt keyOf reached [e] := by
  intro e' he
  rw [List.mem_singleton.1 he]
  exact ⟨s, here, key⟩

theorem append (h : OnlyAt keyOf reached first) (h' : OnlyAt keyOf reached second) :
    OnlyAt keyOf reached (first ++ second) := by
  intro e he
  rcases List.mem_append.1 he with he | he
  · exact h e he
  · exact h' e he

theorem mono (h : OnlyAt keyOf reached first) (more : ∀ s, reached s → wider s) :
    OnlyAt keyOf wider first :=
  fun e he => (h e he).imp fun s hs => ⟨more s hs.1, hs.2⟩

/-- What is at none of the places keeps its value. -/
theorem get?_apply (h : OnlyAt keyOf reached first) {key : Bytes}
    (elsewhere : ∀ s, reached s → keyOf s ≠ some key) (entries : Entries) :
    (entries.apply first).get? key = entries.get? key := by
  refine Entries.get?_apply_of_notMem _ fun e he same => ?_
  obtain ⟨s, here, at'⟩ := h e he
  exact elsewhere s here (at'.trans (congrArg some same.symm))

end Batch.OnlyAt

namespace Register

/-- The key of a place in a register, if the register has such a place. -/
def keyOf {ρ : Type} (r : Register ρ) : Slot → Option Bytes
  | .record id => some (Layout.idKey r.records id)
  | .last => some [r.counter]
  | .pair p => r.index.map fun region => Layout.pairKey region p
  | .total _ => none

variable {ρ : Type} [Record ρ] {r : Register ρ} {store : Store} {batch : Batch} {x y : ρ}
  {reached : Slot → Prop}

/-! ## Records by id -/

/-- Writing a record concerns the place of its id. -/
theorem onlyAt_entry (here : reached (.record (Record.id x))) :
    Batch.OnlyAt r.keyOf reached [r.entry x] :=
  .single here rfl

/-- **A new record** concerns its own place and that of the last id. -/
theorem onlyAt_add (new : Record.id x = 0) (planned : r.add store x = .ok (y, batch)) :
    Batch.OnlyAt r.keyOf (Slot.New (Record.id y)) batch := by
  obtain ⟨n, -, -, -, rfl⟩ := add_eq_ok new planned
  exact .append (.single .last rfl) (onlyAt_entry .record)

section Revision

variable [Vetted ρ] [FaithfulRecord ρ] {id : RecordId} {c : Contents ρ}

/-- A stored record has the id that it is found under. -/
theorem Keeps.id_of_find {format : AddressFormat} (keeps : r.Keeps format store.entries c)
    (within : store.entries.Within (Bytes.reach 8)) (found : r.find store id = .ok (some x)) :
    Record.id x = id :=
  (keeps.valid id x (keeps.find_eq_ok within found).symm).1

variable {σ : Type} [Lifecycle σ] [DecidableEq σ] [Governed ρ σ] {policy : Policy}
  {scores : ScoreSource} {answer : ρ}

/-- **A step** concerns the place of the record that takes it. -/
theorem onlyAt_advance (keeps : r.Keeps policy.addresses store.entries c)
    (within : store.entries.Within (Bytes.reach 8)) {next : σ}
    (planned : r.advance policy store scores id next = .ok (answer, batch)) :
    Batch.OnlyAt r.keyOf (· = .record id) batch := by
  obtain ⟨x, found, ⟨-, -, rfl⟩ | ⟨-, -, -, -, -, rfl⟩⟩ := advance_eq_ok planned
  · exact .nil
  · refine onlyAt_entry ?_
    rw [Governed.id_withStatus, keeps.id_of_find within found]

omit [DecidableEq σ] in
/-- **An approval** concerns the place of the record that is approved. -/
theorem onlyAt_endorse (keeps : r.Keeps policy.addresses store.entries c)
    (within : store.entries.Within (Bytes.reach 8)) {approval : Approval} {contract : String}
    (planned : r.endorse policy store scores id approval contract = .ok (answer, batch)) :
    Batch.OnlyAt r.keyOf (· = .record id) batch := by
  obtain ⟨x, e, found, -, -, -, rfl⟩ := endorse_eq_ok planned
  refine onlyAt_entry ?_
  rw [Governed.id_withEndorsement, keeps.id_of_find within found]

end Revision

/-! ## Records under their pairs -/

/-- The places that entering a record under its pair has to do with: that of the record, that of its
index entry, that of the index entry of the record whose place it takes, if this one had another
pair, and that of the last id, if one is given out. -/
inductive Entering [Paired ρ] (r : Register ρ) (store : Store) (x : ρ) (id : RecordId) :
    Slot → Prop where
  | record : Entering r store x id (.record id)
  | pair : Entering r store x id (.pair (Paired.pair x))
  | moved {y : ρ} (found : r.find store id = .ok (some y))
      (differ : Paired.pair y ≠ Paired.pair x) : Entering r store x id (.pair (Paired.pair y))
  | last (needs : r.NeedsId store x) : Entering r store x id .last

section Pairs

variable [Paired ρ] {region : UInt8}

/-- Records with one id and one pair have to do with the same places. -/
theorem Entering.congr {z : ρ} {id : RecordId} (sameId : Record.id z = Record.id x)
    (samePair : Paired.pair z = Paired.pair x) {s : Slot} (h : r.Entering store z id s) :
    r.Entering store x id s := by
  cases h with
  | record => exact .record
  | pair => exact samePair ▸ .pair
  | moved found differ => exact .moved found (samePair ▸ differ)
  | last needs =>
    unfold NeedsId at needs
    rw [sameId, samePair] at needs
    exact .last needs

/-- Writing a record and its index entry. -/
theorem onlyAt_pointed (index : r.index = some region) {making writing : Batch}
    (made : Batch.OnlyAt r.keyOf reached making) (written : Batch.OnlyAt r.keyOf reached writing)
    (here : reached (.pair (Paired.pair y))) :
    Batch.OnlyAt r.keyOf reached (making ++ writing ++
      [.put (Layout.pairKey region (Paired.pair y)) (Layout.count (Record.id y))]) := by
  refine (made.append written).append (.single here ?_)
  rw [keyOf, index]
  rfl

/-- Writing a record under its pair, where the index leads to ids that were given out. -/
theorem onlyAt_upsert {last : RecordId} (given : IndexGiven region store.entries last)
    (index : r.index = some region) (planned : r.upsert store x = .ok (y, batch)) :
    Batch.OnlyAt r.keyOf (r.Entering store.mended x (Record.id y)) batch := by
  obtain ⟨z, making, writing, settled, added, rfl⟩ := upsert_eq_ok index planned
  rcases settle_eq_ok index settled with
    ⟨id, hlookup, rfl, rfl⟩ | ⟨hlookup, rfl, ⟨zero, rfl⟩ | hid⟩
  · -- the id is not zero, so none is given out
    obtain ⟨nonzero, -⟩ := given.of_lookup index hlookup
    rw [← Record.id_withId x id] at nonzero
    rw [add_of_ne_zero nonzero] at added
    cases added
    refine onlyAt_pointed index .nil (onlyAt_entry .record) ?_
    rw [Paired.pair_withId]
    exact .pair
  · obtain ⟨n, -, -, rfl, rfl⟩ := add_eq_ok zero added
    have needs : r.NeedsId store.mended z := ⟨zero, lookup_mended hlookup⟩
    refine onlyAt_pointed index .nil ?_ ?_
    · exact .append (.single (.last needs) rfl) (onlyAt_entry .record)
    · rw [Paired.pair_withId]
      exact .pair
  · obtain ⟨nonzero, found, hfind, making'⟩ := hid
    rw [add_of_ne_zero nonzero] at added
    cases added
    refine onlyAt_pointed index ?_ (onlyAt_entry .record) .pair
    rcases making' with ⟨rfl, -⟩ | ⟨previous, rfl, differ, rfl⟩
    · exact .nil
    · refine .single (.moved (find_mended hfind) differ) ?_
      rw [keyOf, index]
      rfl

/-- **Entering a record under its pair.** -/
theorem Orderly.onlyAt_enter [Vetted ρ] {format : AddressFormat}
    (h : r.Orderly region format store.entries) (index : r.index = some region)
    {settled : ρ → ρ} (spares : Spares format settled) {id : RecordId}
    (planned : r.enter format store x settled = .ok (id, batch)) :
    Batch.OnlyAt r.keyOf (r.Entering store.mended x id) batch := by
  obtain ⟨c, -, given⟩ := h
  obtain ⟨-, -, y, hupsert, rfl⟩ := enter_eq_ok spares planned
  exact (onlyAt_upsert given index hupsert).mono fun s =>
    Entering.congr (spares.id_eq x) (spares.pair_eq x)

/-- The places that entering a record with a short pair has to do with are short, where the index
fits its records. -/
theorem Filed.short_of_entering [Vetted ρ] [FaithfulRecord ρ] {format : AddressFormat}
    (h : r.Filed region format store.entries) (within : store.entries.Within (Bytes.reach 8))
    (short : (Paired.pair x).Short) {id : RecordId} {s : Slot}
    (reached : r.Entering store x id s) : s.Short := by
  obtain ⟨c, filed⟩ := h
  cases reached with
  | record => trivial
  | pair => exact short
  | moved found differ => exact filed.short id _ (filed.keeps.find_eq_ok within found).symm
  | last needs => trivial

end Pairs

end Register

end PublicFunds
