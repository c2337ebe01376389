import PublicFunds.Proofs.Register.Contents
import PublicFunds.Proofs.Register.Section

/-!
# The index follows the records

Where records are unique under a pair, the index has an entry for the pair of every record and no
other entry.  So two records never have pairs that are stored alike, and a pair that is not in the
index is the pair of no record.

Writing a record under a pair ends in the same place on three ways.  The record takes over the id
that its pair has; or it is new in every respect; or it keeps its id and gives up the pair that the
record there had before.  What happens to the index is one thing each time: the new pair leads to
the id, the pair that the record under this id had before leads nowhere unless it is the new one,
and everything else stays.

* `Register.HasIndex`, `Register.Indexes`: where the index is, and the index of some records.
* `Register.Indexes.put`: what has to happen to the index when a record is written.
* `Register.Contents.Upserted`: the record that is written, and the contents after it.
* `Register.Keeps.takeOver`, `Register.Keeps.enterNew`, `Register.Keeps.giveUp`: the three ways.
* `Register.Keeps.upsert`: writing a record under its pair.
-/

namespace PublicFunds

namespace Register

/-! ## Where the index is -/

/-- A register has its index in a region.  The index, the records and the last id are kept apart. -/
structure HasIndex {ρ : Type} (r : Register ρ) (region : UInt8) : Prop where
  index : r.index = some region
  records : r.records ≠ region
  counter : r.counter ≠ region
  apart : r.records ≠ r.counter

/-- What is written besides the index leaves it alone. -/
theorem HasIndex.get?_apply {ρ : Type} {r : Register ρ} {region : UInt8} (h : r.HasIndex region)
    {batch : Batch} (touches : r.Touches r.records batch) (entries : Entries) (bs : Bytes) :
    (entries.apply batch).get? (region :: bs) = entries.get? (region :: bs) :=
  touches.get?_apply_cons h.counter.symm h.records.symm h.records.symm entries bs

/-! ## What the index says -/

variable {ρ : Type} [Record ρ] [Paired ρ]

/-- A region is the index of some records: it leads from the pair of each to its id. -/
def Indexes (region : UInt8) (entries : Entries) (records : OrderedMap RecordId ρ) : Prop :=
  ∀ bs value, entries.get? (region :: bs) = some value ↔
    ∃ id x, records.get? id = some x ∧ (Paired.pair x).bytes = bs ∧ value = Layout.count id

namespace Indexes

variable {region : UInt8} {entries : Entries} {records : OrderedMap RecordId ρ}

/-- The pair of a record leads to its id. -/
theorem get?_pair (h : Indexes region entries records) {id : RecordId} {x : ρ}
    (found : records.get? id = some x) :
    entries.get? (Layout.pairKey region (Paired.pair x)) = some (Layout.count id) :=
  (h _ _).2 ⟨id, x, found, rfl, rfl⟩

/-- Records whose pairs are stored alike are one. -/
theorem id_eq (h : Indexes region entries records) {i j : RecordId} {x y : ρ}
    (hx : records.get? i = some x) (hy : records.get? j = some y)
    (same : (Paired.pair x).bytes = (Paired.pair y).bytes) : i = j := by
  have one := h.get?_pair hx
  have two := h.get?_pair hy
  rw [Layout.pairKey, same] at one
  rw [Layout.pairKey, one] at two
  exact Layout.count_inj.1 (Option.some.inj two)

/-- **The index after a record is written.**  The pair of the record leads to its id, the pair that
the record under this id had before leads nowhere unless it is the same, and nothing else changes.
No other record may have the pair. -/
theorem put (h : Indexes region entries records) {id : RecordId} {x : ρ} {after : Entries}
    (new : after.get? (Layout.pairKey region (Paired.pair x)) = some (Layout.count id))
    (old : ∀ y, records.get? id = some y → (Paired.pair y).bytes ≠ (Paired.pair x).bytes →
      after.get? (Layout.pairKey region (Paired.pair y)) = none)
    (rest : ∀ bs, (Paired.pair x).bytes ≠ bs →
      (∀ y, records.get? id = some y → (Paired.pair y).bytes ≠ bs) →
      after.get? (region :: bs) = entries.get? (region :: bs))
    (alone : ∀ j y, records.get? j = some y → (Paired.pair y).bytes = (Paired.pair x).bytes →
      j = id) :
    Indexes region after (records.insert id x) := by
  intro bs value
  constructor
  · intro found
    by_cases hnew : (Paired.pair x).bytes = bs
    · subst hnew
      rw [Layout.pairKey, found] at new
      exact ⟨id, x, OrderedMap.get?_insert_self .., rfl, Option.some.inj new⟩
    · have unmoved : ∀ y, records.get? id = some y → (Paired.pair y).bytes ≠ bs := by
        rintro y hy rfl
        have gone := old y hy (Ne.symm hnew)
        rw [Layout.pairKey, found] at gone
        cases gone
      rw [rest bs hnew unmoved] at found
      obtain ⟨j, y, hy, hbs, hvalue⟩ := (h bs value).1 found
      have hj : j ≠ id := by
        rintro rfl
        exact unmoved y hy hbs
      exact ⟨j, y, by rw [OrderedMap.get?_insert_of_ne _ hj, hy], hbs, hvalue⟩
  · rintro ⟨j, y, hy, rfl, rfl⟩
    by_cases hj : j = id
    · subst hj
      rw [OrderedMap.get?_insert_self] at hy
      cases hy
      exact new
    · rw [OrderedMap.get?_insert_of_ne _ hj] at hy
      rw [rest _ (fun same => hj (alone j y hy same.symm))
        fun z hz same => hj (h.id_eq hy hz same.symm)]
      exact h.get?_pair hy

end Indexes

/-- Writing a record and its index entry stays within a register. -/
theorem touches_writing {r : Register ρ} {region : UInt8} {making : Batch} {y : ρ}
    (h : r.Touches region making) :
    r.Touches region (making ++ [r.entry y] ++
      [.put (Layout.pairKey region (Paired.pair y)) (Layout.count (Record.id y))]) := by
  refine (h.append (r.touches_entry region y)).append fun e he => ?_
  rw [List.mem_singleton.1 he]
  exact .inr (.inr rfl)

/-- The key of a pair is not the key of the last id. -/
theorem pairKey_ne_counter (region counter : UInt8) (pair : PairKey) :
    Layout.pairKey region pair ≠ [counter] := by
  intro same
  have lengths := congrArg List.length same
  simp [Layout.pairKey, PairKey.bytes, PairKey.part] at lengths

/-! ## Questions by pair -/

omit [Paired ρ] in
/-- What an answer to a question by pair says about the index. -/
theorem lookup_eq_ok {r : Register ρ} {region : UInt8} (index : r.index = some region)
    {store : Store} {pair : PairKey} {answer : Option RecordId}
    (found : r.lookup store pair = .ok answer) :
    (answer = none ∧ store.entries.get? (Layout.pairKey region pair) = none) ∨
      ∃ id bs, answer = some id ∧ store.entries.get? (Layout.pairKey region pair) = some bs ∧
        Layout.countOf (Record.kind ρ) bs = .ok id := by
  unfold lookup indexRegion at found
  simp only [index] at found
  split at found
  · cases found
  · next hfind =>
    cases found
    exact .inl ⟨rfl, (Store.find_eq_ok hfind).symm⟩
  · next bs hfind =>
    cases hcount : Layout.countOf (Record.kind ρ) bs with
    | error e =>
      rw [hcount] at found
      cases found
    | ok id =>
      rw [hcount] at found
      cases found
      exact .inr ⟨id, bs, rfl, (Store.find_eq_ok hfind).symm, hcount⟩

namespace Indexes

variable {r : Register ρ} {region : UInt8} {store : Store} {records : OrderedMap RecordId ρ}
  {pair : PairKey}

/-- The id under a pair is that of a record whose pair is stored alike. -/
theorem exists_of_lookup (h : Indexes region store.entries records) (index : r.index = some region)
    {id : RecordId} (found : r.lookup store pair = .ok (some id)) :
    ∃ x, records.get? id = some x ∧ (Paired.pair x).bytes = pair.bytes := by
  obtain ⟨impossible, -⟩ | ⟨_, bs, ⟨⟩, stored, count⟩ := lookup_eq_ok index found
  · cases impossible
  · obtain ⟨j, x, hx, hbs, rfl⟩ := (h _ _).1 stored
    rw [Layout.countOf_count] at count
    cases count
    exact ⟨x, hx, hbs⟩

/-- A pair that is not in the index is the pair of no record. -/
theorem ne_of_lookup (h : Indexes region store.entries records) (index : r.index = some region)
    (found : r.lookup store pair = .ok none) {id : RecordId} {x : ρ}
    (hx : records.get? id = some x) : (Paired.pair x).bytes ≠ pair.bytes := by
  intro same
  have stored := h.get?_pair hx
  obtain ⟨-, absent⟩ | ⟨_, _, impossible, -, -⟩ := lookup_eq_ok index found
  · rw [Layout.pairKey, same, ← Layout.pairKey, absent] at stored
    cases stored
  · cases impossible

end Indexes

/-! ## Writing under a pair -/

/-- What is known once a record is about to be written under its pair. -/
theorem upsert_eq_ok {r : Register ρ} {region : UInt8} (index : r.index = some region)
    {store : Store} {x y : ρ} {batch : Batch} (planned : r.upsert store x = .ok (y, batch)) :
    ∃ z making writing, r.settle store x = .ok (z, making) ∧ r.add store z = .ok (y, writing) ∧
      batch = making ++ writing ++
        [.put (Layout.pairKey region (Paired.pair y)) (Layout.count (Record.id y))] := by
  unfold upsert at planned
  cases hsettle : r.settle store x with
  | error e =>
    rw [hsettle] at planned
    cases planned
  | ok settled =>
    obtain ⟨z, making⟩ := settled
    rw [hsettle] at planned
    cases hadd : r.add store z with
    | error e =>
      simp only [hadd] at planned
      cases planned
    | ok added =>
      obtain ⟨w, writing⟩ := added
      simp only [hadd, stagePair, indexRegion, index] at planned
      cases planned
      exact ⟨z, making, writing, rfl, hadd, rfl⟩

omit [Paired ρ] in
/-- A record that has an id keeps it. -/
theorem add_of_ne_zero {r : Register ρ} {store : Store} {x : ρ} (h : Record.id x ≠ 0) :
    r.add store x = .ok (x, [r.entry x]) := by
  rw [add, if_neg h]

/-- What is known once the record under an id has given up its pair for another: there was nothing
to give up, or the entry of its pair is deleted. -/
theorem dropPair_eq_ok {r : Register ρ} {region : UInt8} (index : r.index = some region)
    {store : Store} {id : RecordId} {pair : PairKey} {making : Batch}
    (dropped : r.dropPair store id pair = .ok making) :
    ∃ found, r.find store id = .ok found ∧
      ((making = [] ∧ ∀ previous, found = some previous → Paired.pair previous = pair) ∨
        ∃ previous, found = some previous ∧ Paired.pair previous ≠ pair ∧
          making = [.delete (Layout.pairKey region (Paired.pair previous))]) := by
  unfold dropPair at dropped
  cases hfind : r.find store id with
  | error e =>
    rw [hfind] at dropped
    cases dropped
  | ok found =>
    rw [hfind] at dropped
    refine ⟨_, rfl, ?_⟩
    cases found with
    | none =>
      cases dropped
      exact .inl ⟨rfl, fun previous impossible => nomatch impossible⟩
    | some previous =>
      by_cases differ : Paired.pair previous = pair
      · simp only [if_pos differ] at dropped
        cases dropped
        refine .inl ⟨rfl, ?_⟩
        rintro _ ⟨⟩
        exact differ
      · simp only [if_neg differ, indexRegion, index] at dropped
        cases dropped
        exact .inr ⟨previous, rfl, differ, rfl⟩

/-- What is known once room has been made for a record: it takes over the id of its pair, or there
is no such id; then it is new, or the record under its id gives up its pair. -/
theorem settle_eq_ok {r : Register ρ} {region : UInt8} (index : r.index = some region)
    {store : Store} {x z : ρ} {making : Batch} (settled : r.settle store x = .ok (z, making)) :
    (∃ id, r.lookup store (Paired.pair x) = .ok (some id) ∧ z = Record.withId x id ∧ making = []) ∨
      (r.lookup store (Paired.pair x) = .ok none ∧ z = x ∧
        ((Record.id x = 0 ∧ making = []) ∨
          (Record.id x ≠ 0 ∧ ∃ found, r.find store (Record.id x) = .ok found ∧
            ((making = [] ∧
                ∀ previous, found = some previous → Paired.pair previous = Paired.pair x) ∨
              ∃ previous, found = some previous ∧ Paired.pair previous ≠ Paired.pair x ∧
                making = [.delete (Layout.pairKey region (Paired.pair previous))])))) := by
  unfold settle at settled
  cases hlookup : r.lookup store (Paired.pair x) with
  | error e =>
    rw [hlookup] at settled
    cases settled
  | ok result =>
    rw [hlookup] at settled
    cases result with
    | some id =>
      cases settled
      exact .inl ⟨id, rfl, rfl, rfl⟩
    | none =>
      refine .inr ⟨rfl, ?_⟩
      by_cases hzero : Record.id x = 0
      · simp only [if_pos hzero] at settled
        cases settled
        exact ⟨rfl, .inl ⟨hzero, rfl⟩⟩
      · simp only [if_neg hzero] at settled
        cases hdrop : r.dropPair store (Record.id x) (Paired.pair x) with
        | error e =>
          rw [hdrop] at settled
          cases settled
        | ok batch =>
          rw [hdrop] at settled
          cases settled
          exact ⟨rfl, .inr ⟨hzero, dropPair_eq_ok index hdrop⟩⟩

/-- No record has a pair that is stored like that of another. -/
def Contents.Frees (c : Contents ρ) (x : ρ) : Prop :=
  ∀ id z, c.records.get? id = some z → (Paired.pair z).bytes ≠ (Paired.pair x).bytes

/-- **Writing a record under its pair**, as a change of the contents: the record that is written,
and the contents after it. -/
inductive Contents.Upserted (c : Contents ρ) (x : ρ) : ρ → Contents ρ → Prop where
  /-- The record takes over the id that its pair has. -/
  | takeOver {id : RecordId} {previous : ρ} (found : c.records.get? id = some previous)
      (alike : (Paired.pair previous).bytes = (Paired.pair x).bytes) :
      Upserted c x (Record.withId x id) (c.put (Record.withId x id))
  /-- The record is new in every respect. -/
  | enterNew (zero : Record.id x = 0) (up : c.last < c.last + 1) (free : c.Frees x) :
      Upserted c x (Record.withId x (c.last + 1))
        (Contents.put { c with last := c.last + 1 } (Record.withId x (c.last + 1)))
  /-- The record keeps its id, and the one that was there gives up its pair. -/
  | giveUp {previous : ρ} (nonzero : Record.id x ≠ 0)
      (found : c.records.get? (Record.id x) = some previous) (free : c.Frees x) :
      Upserted c x x (c.put x)

variable [Vetted ρ]

/-- After a batch a store is a register with its index again, and nothing outside of it is
touched. -/
structure IndexedAfter (r : Register ρ) (format : AddressFormat) (region : UInt8)
    (entries : Entries) (batch : Batch) (c : Contents ρ) : Prop where
  touches : r.Touches region batch
  keeps : r.Keeps format (entries.apply batch) c
  indexes : Indexes region (entries.apply batch) c.records

namespace Keeps

variable {r : Register ρ} {format : AddressFormat} {c : Contents ρ} {region : UInt8}

/-- A record and its index entry are written, after room was made in the index. -/
theorem write {start before : Entries} (h : r.Keeps format before c)
    (indexed : Indexes region start c.records) (apart : r.records ≠ region) {y : ρ}
    (nonzero : Record.id y ≠ 0) (given : Record.id y ≤ c.last)
    (checked : Vetted.checkFields format y = .ok ())
    (old : ∀ z, c.records.get? (Record.id y) = some z →
      (Paired.pair z).bytes ≠ (Paired.pair y).bytes →
      before.get? (Layout.pairKey region (Paired.pair z)) = none)
    (rest : ∀ bs, (Paired.pair y).bytes ≠ bs →
      (∀ z, c.records.get? (Record.id y) = some z → (Paired.pair z).bytes ≠ bs) →
      before.get? (region :: bs) = start.get? (region :: bs))
    (alone : ∀ j z, c.records.get? j = some z → (Paired.pair z).bytes = (Paired.pair y).bytes →
      j = Record.id y) :
    let after := Entries.apply before ([r.entry y] ++
      [.put (Layout.pairKey region (Paired.pair y)) (Layout.count (Record.id y))])
    r.Keeps format after (c.put y) ∧ Indexes region after (c.put y).records := by
  intro after
  have entered := h.entry nonzero given checked
  have records : ∀ tail, (Layout.pairKey region (Paired.pair y)) ≠ r.records :: tail :=
    fun tail same => apart (List.cons.inj same).1.symm
  have inIndex : ∀ bs, region :: bs ≠ (r.entry y).key :=
    fun bs same => apart (List.cons.inj same).1.symm
  have others : ∀ key, key ≠ Layout.pairKey region (Paired.pair y) →
      after.get? key = (Entries.edit before (r.entry y)).get? key :=
    fun key hkey => OrderedMap.get?_insert_of_ne _ hkey _
  constructor
  · exact entered.elsewhere (fun tail => others _ (records tail).symm)
      (others _ (pairKey_ne_counter _ _ _).symm)
  · refine indexed.put (OrderedMap.get?_insert_self ..) ?_ ?_ alone
    · intro z hz differ
      rw [others (Layout.pairKey region (Paired.pair z)) fun same => differ (List.cons.inj same).2]
      exact (Entries.get?_edit_of_ne _ (inIndex _)).trans (old z hz differ)
    · intro bs hbs unmoved
      rw [others (region :: bs) fun same => hbs (List.cons.inj same).2.symm]
      exact (Entries.get?_edit_of_ne _ (inIndex _)).trans (rest bs hbs unmoved)

variable [VettedApart ρ] {store : Store} {x y : ρ} {writing : Batch}

/-- A record takes over the id of its pair. -/
theorem takeOver (h : r.Keeps format store.entries c)
    (indexed : Indexes region store.entries c.records) (placed : r.HasIndex region)
    (checked : Vetted.checkFields format x = .ok ()) {id : RecordId}
    (hlookup : r.lookup store (Paired.pair x) = .ok (some id))
    (added : r.add store (Record.withId x id) = .ok (y, writing)) :
    ∃ c', c.Upserted x y c' ∧ r.IndexedAfter format region store.entries (writing ++
      [.put (Layout.pairKey region (Paired.pair y)) (Layout.count (Record.id y))]) c' := by
  obtain ⟨previous, hprevious, alike⟩ := indexed.exists_of_lookup placed.index hlookup
  obtain ⟨-, nonzero, given, -⟩ := h.valid id previous hprevious
  rw [add_of_ne_zero (by rwa [Record.id_withId])] at added
  cases added
  refine ⟨_, .takeOver hprevious alike, ?_⟩
  rw [← Record.id_withId x id] at nonzero given hprevious
  rw [← Paired.pair_withId x id] at alike
  have written := h.write indexed placed.records nonzero given ?_ ?_ ?_ ?_
  · exact ⟨touches_writing touches_nil, written.1, written.2⟩
  · rw [VettedApart.checkFields_withId]
    exact checked
  · intro z hz differ
    rw [hprevious] at hz
    cases hz
    exact absurd alike differ
  · exact fun _ _ _ => rfl
  · exact fun j z hz same => indexed.id_eq hz hprevious (same.trans alike.symm)

/-- A record is new. -/
theorem enterNew (h : r.Keeps format store.entries c)
    (indexed : Indexes region store.entries c.records) (placed : r.HasIndex region)
    (checked : Vetted.checkFields format x = .ok ())
    (hlookup : r.lookup store (Paired.pair x) = .ok none) (zero : Record.id x = 0)
    (added : r.add store x = .ok (y, writing)) :
    ∃ c', c.Upserted x y c' ∧ r.IndexedAfter format region store.entries (writing ++
      [.put (Layout.pairKey region (Paired.pair y)) (Layout.count (Record.id y))]) c' := by
  obtain ⟨up, rfl, rfl, -⟩ := h.add placed.apart zero checked added
  have raised := h.setLast placed.apart (UInt64.le_of_lt up)
  have free := h.get?_eq_none up
  have new : c.Frees x := fun id z => indexed.ne_of_lookup placed.index hlookup
  refine ⟨_, .enterNew zero up new, ?_⟩
  have written := raised.write (y := Record.withId x (c.last + 1)) indexed placed.records
    ?_ ?_ ?_ ?_ ?_ ?_
  · rw [← Entries.apply_append, ← List.append_assoc] at written
    exact ⟨touches_writing (touches_setLast _), written.1, written.2⟩
  · rw [Record.id_withId]
    intro zero
    rw [zero] at up
    exact absurd up (by simp)
  · rw [Record.id_withId]
    exact UInt64.le_refl _
  · rw [VettedApart.checkFields_withId]
    exact checked
  · intro z hz
    rw [Record.id_withId, free] at hz
    cases hz
  · exact fun bs _ _ => Entries.get?_edit_of_ne store.entries (e := .put _ _)
      fun same => placed.counter (List.cons.inj same).1.symm
  · intro j z hz same
    rw [Paired.pair_withId] at same
    exact absurd same (new j z hz)

omit [VettedApart ρ] in
/-- A record keeps its id, and the record that was there gives up its pair. -/
theorem giveUp (h : r.Keeps format store.entries c)
    (indexed : Indexes region store.entries c.records) (placed : r.HasIndex region)
    (checked : Vetted.checkFields format x = .ok ())
    (hlookup : r.lookup store (Paired.pair x) = .ok none) (nonzero : Record.id x ≠ 0) {previous : ρ}
    (hprevious : c.records.get? (Record.id x) = some previous)
    (added : r.add store x = .ok (y, writing)) :
    ∃ c', c.Upserted x y c' ∧ r.IndexedAfter format region store.entries
      ([.delete (Layout.pairKey region (Paired.pair previous))] ++ writing ++
        [.put (Layout.pairKey region (Paired.pair y)) (Layout.count (Record.id y))]) c' := by
  rw [add_of_ne_zero nonzero] at added
  cases added
  obtain ⟨-, -, given, -⟩ := h.valid _ previous hprevious
  have free : c.Frees x := fun id z => indexed.ne_of_lookup placed.index hlookup
  refine ⟨_, .giveUp nonzero hprevious free, ?_⟩
  have gone : ∀ key, key ≠ Layout.pairKey region (Paired.pair previous) →
      (Entries.apply store.entries
        [.delete (Layout.pairKey region (Paired.pair previous))]).get? key =
        store.entries.get? key := fun key hkey => OrderedMap.get?_erase_of_ne _ hkey
  have kept := h.elsewhere (fun tail => gone _ fun same => placed.records (List.cons.inj same).1)
    (gone _ (pairKey_ne_counter _ _ _).symm)
  have written := kept.write indexed placed.records nonzero given checked ?_ ?_ ?_
  · rw [← Entries.apply_append, ← List.append_assoc] at written
    refine ⟨touches_writing fun e he => .inr (.inr ?_), written.1, written.2⟩
    rw [List.mem_singleton.1 he]
    rfl
  · intro z hz _
    rw [hprevious] at hz
    cases hz
    exact OrderedMap.get?_erase_self ..
  · intro bs _ unmoved
    exact gone _ fun same => unmoved previous hprevious (List.cons.inj same).2.symm
  · exact fun j z hz same => absurd same (free j z hz)

/-- **Writing a record under its pair** leaves a register with its index. -/
theorem upsert [FaithfulRecord ρ] (h : r.Keeps format store.entries c)
    (indexed : Indexes region store.entries c.records) (placed : r.HasIndex region)
    (within : store.entries.Within (Bytes.reach 8)) {batch : Batch}
    (checked : Vetted.checkFields format x = .ok ())
    (known : Record.id x ≠ 0 → (c.records.get? (Record.id x)).isSome = true)
    (planned : r.upsert store x = .ok (y, batch)) :
    ∃ c', c.Upserted x y c' ∧ r.IndexedAfter format region store.entries batch c' := by
  obtain ⟨z, making, writing, settled, added, rfl⟩ := upsert_eq_ok placed.index planned
  rcases settle_eq_ok placed.index settled with
    ⟨id, hlookup, rfl, rfl⟩ | ⟨hlookup, rfl, hzero | hid⟩
  · exact h.takeOver indexed placed checked hlookup added
  · obtain ⟨zero, rfl⟩ := hzero
    exact h.enterNew indexed placed checked hlookup zero added
  · obtain ⟨nonzero, found, hfind, gives⟩ := hid
    rw [h.find_eq_ok within hfind] at gives
    rcases gives with ⟨-, alike⟩ | ⟨previous, hprevious, -, rfl⟩
    · -- the record under the id has another pair, since the new one is not in the index
      obtain ⟨previous, hprevious⟩ := Option.isSome_iff_exists.1 (known nonzero)
      exact absurd (congrArg PairKey.bytes (alike previous hprevious))
        (indexed.ne_of_lookup placed.index hlookup hprevious)
    · exact h.giveUp indexed placed checked hlookup nonzero hprevious added

end Keeps

end Register

end PublicFunds
