import PublicFunds.Proofs.Register.Writing

/-!
# What holds of a register however long its pairs are

An index fits its records as long as no part of a pair is too long for its length to be stored.
Some things hold without this.  An index never leads to an id that was not given out, since every
entry is written for a record that has its id by then.  So whatever the index leads a record to, the
record stands under an id that was given out, and every record is one that passes its checks.

* `Register.IndexGiven`: an index leads to ids that were given out.
* `Register.Orderly`: a store is that of a register with such an index.
* `Register.NeedsId`: a record that is entered under its pair gets a new id.
* `Register.Keeps.enter_writes`: what entering a record under its pair does to the contents.
* `Register.Orderly.enter`, `Register.Orderly.replace`, `Register.Orderly.load`: what keeps it so.
-/

namespace PublicFunds

namespace Register

/-! ## Indexes that lead to ids that were given out -/

/-- A region leads to ids that were given out. -/
def IndexGiven (region : UInt8) (entries : Entries) (last : RecordId) : Prop :=
  ∀ bs value, entries.get? (region :: bs) = some value →
    ∃ id, id ≠ 0 ∧ id ≤ last ∧ value = Layout.count id

/-- A change of an index: an entry for an id that was given out, or the end of one. -/
inductive IndexEdit (region : UInt8) (last : RecordId) : Edit → Prop where
  | point (bs : Bytes) {id : RecordId} (nonzero : id ≠ 0) (given : id ≤ last) :
      IndexEdit region last (.put (region :: bs) (Layout.count id))
  | drop (bs : Bytes) : IndexEdit region last (.delete (region :: bs))

variable {region : UInt8} {last : RecordId} {batch : Batch}

theorem IndexEdit.inside (all : ∀ e ∈ batch, IndexEdit region last e) : batch.Inside region := by
  intro e he
  cases all e he with
  | point bs _ _ => rfl
  | drop bs => rfl

namespace IndexGiven

variable {entries : Entries}

theorem empty (region : UInt8) (last : RecordId) : IndexGiven region .empty last :=
  fun _ _ found => nomatch found

/-- More ids may be given out. -/
theorem mono (h : IndexGiven region entries last) {more : RecordId} (up : last ≤ more) :
    IndexGiven region entries more := by
  intro bs value found
  obtain ⟨id, nonzero, given, rfl⟩ := h bs value found
  exact ⟨id, nonzero, UInt64.le_trans given up, rfl⟩

/-- What is done outside of an index leaves it alone. -/
theorem congr (h : IndexGiven region entries last) {other : Entries}
    (same : ∀ bs, other.get? (region :: bs) = entries.get? (region :: bs)) :
    IndexGiven region other last :=
  fun bs value found => h bs value (by rwa [same] at found)

theorem edit (h : IndexGiven region entries last) {e : Edit} (change : IndexEdit region last e) :
    IndexGiven region (entries.edit e) last := by
  intro bs value found
  by_cases here : region :: bs = e.key
  · cases change with
    | point bs' nonzero given =>
      rw [here] at found
      have written := (OrderedMap.get?_insert_self entries _ _).symm.trans found
      exact ⟨_, nonzero, given, (Option.some.inj written).symm⟩
    | drop bs' =>
      rw [here] at found
      have gone := (OrderedMap.get?_erase_self entries _).symm.trans found
      cases gone
  · rw [Entries.get?_edit_of_ne _ here] at found
    exact h bs value found

/-- Changes of an index, one after the other. -/
theorem apply (h : IndexGiven region entries last) (all : ∀ e ∈ batch, IndexEdit region last e) :
    IndexGiven region (entries.apply batch) last := by
  induction batch generalizing entries with
  | nil => exact h
  | cons e batch ih =>
    exact ih (h.edit (all e (List.mem_cons_self ..))) fun e' he' =>
      all e' (List.mem_cons_of_mem _ he')

variable {ρ : Type} [Record ρ] {r : Register ρ} {store : Store}

/-- An id that is looked up was given out. -/
theorem of_lookup (h : IndexGiven region store.entries last) (index : r.index = some region)
    {pair : PairKey} {id : RecordId} (found : r.lookup store pair = .ok (some id)) :
    id ≠ 0 ∧ id ≤ last := by
  obtain ⟨impossible, -⟩ | ⟨_, bs, ⟨⟩, stored, count⟩ := lookup_eq_ok index found
  · cases impossible
  · obtain ⟨j, nonzero, le, rfl⟩ := h _ _ stored
    rw [Layout.countOf_count] at count
    cases count
    exact ⟨nonzero, le⟩

/-- The index that is built again leads to the ids of the records. -/
theorem indexing [Paired ρ] {s : Section ρ} (ids : s.checkIds = .ok ()) :
    ∀ e ∈ Register.indexing region s.records, IndexEdit region s.count e := by
  intro e he
  obtain ⟨x, hx, rfl⟩ := List.mem_map.1 he
  obtain ⟨nonzero, given⟩ := (Section.checkIds_eq_ok_iff.1 ids).1 x hx
  exact .point _ nonzero given

end IndexGiven

/-! ## Orderly registers -/

variable {ρ : Type} [Record ρ] [Vetted ρ]

/-- A store is that of a register with an index that leads to ids that were given out. -/
def Orderly (r : Register ρ) (region : UInt8) (format : AddressFormat) (entries : Entries) : Prop :=
  ∃ c, r.Keeps format entries c ∧ IndexGiven region entries c.last

theorem orderly_empty (r : Register ρ) (region : UInt8) (format : AddressFormat) :
    r.Orderly region format .empty :=
  ⟨_, r.keeps_empty format, .empty _ _⟩

namespace Keeps

variable {r : Register ρ} {format : AddressFormat} {entries : Entries} {c : Contents ρ}

/-- Changes of an index leave the records alone. -/
theorem index (h : r.Keeps format entries c) (given : IndexGiven region entries c.last)
    (placed : r.HasIndex region) (all : ∀ e ∈ batch, IndexEdit region c.last e) :
    r.Keeps format (entries.apply batch) c ∧ IndexGiven region (entries.apply batch) c.last :=
  ⟨h.aside (IndexEdit.inside all) placed.records placed.counter, given.apply all⟩

/-- A record is written under an id that was given out, and the index leads there. -/
theorem point [Paired ρ] (h : r.Keeps format entries c) (given : IndexGiven region entries c.last)
    (placed : r.HasIndex region) {y : ρ} (nonzero : Record.id y ≠ 0) (le : Record.id y ≤ c.last)
    (checked : Vetted.checkFields format y = .ok ()) :
    let after := Entries.apply entries ([r.entry y] ++
      [.put (Layout.pairKey region (Paired.pair y)) (Layout.count (Record.id y))])
    r.Keeps format after (c.put y) ∧ IndexGiven region after c.last := by
  intro after
  have written := h.entry nonzero le checked
  have aside := given.congr (placed.get?_apply (r.touches_entry r.records y) entries)
  exact written.index aside placed fun e he => by
    rw [List.mem_singleton.1 he]
    exact .point _ nonzero le

end Keeps

/-! ## Records under their pairs -/

/-- A record that is entered under its pair gets a new id: it brings none along, and there is none
under its pair. -/
def NeedsId [Paired ρ] (r : Register ρ) (store : Store) (x : ρ) : Prop :=
  Record.id x = 0 ∧ r.lookup store (Paired.pair x) = .ok none

omit [Vetted ρ] in
/-- What is found is what the store holds. -/
theorem find_mended {r : Register ρ} {store : Store} {id : RecordId} {result : Option ρ}
    (found : r.find store id = .ok result) : r.find store.mended id = .ok result := by
  unfold find at found ⊢
  rw [store.healthy_mended.find]
  cases hfind : store.find (Layout.idKey r.records id) with
  | error fault =>
    rw [hfind] at found
    cases found
  | ok value =>
    rw [hfind, Store.find_eq_ok hfind] at found
    exact found

omit [Vetted ρ] in
/-- What is looked up is what the store holds. -/
theorem lookup_mended {r : Register ρ} {store : Store} {pair : PairKey} {result : Option RecordId}
    (found : r.lookup store pair = .ok result) : r.lookup store.mended pair = .ok result := by
  unfold lookup at found ⊢
  cases hregion : r.indexRegion with
  | error e =>
    rw [hregion] at found
    cases found
  | ok region =>
    rw [hregion] at found
    simp only at found ⊢
    rw [store.healthy_mended.find]
    cases hfind : store.find (Layout.pairKey region pair) with
    | error fault =>
      rw [hfind] at found
      cases found
    | ok value =>
      rw [hfind, Store.find_eq_ok hfind] at found
      exact found

namespace Keeps

variable {r : Register ρ} {format : AddressFormat} {store : Store} {c : Contents ρ}

/-- What writing a record under its pair does to the contents, wherever the index leads. -/
theorem upsert_writes [Paired ρ] [VettedApart ρ] (h : r.Keeps format store.entries c)
    (given : IndexGiven region store.entries c.last) (placed : r.HasIndex region) {x y : ρ}
    (checked : Vetted.checkFields format x = .ok ())
    (known : Record.id x ≠ 0 → (c.records.get? (Record.id x)).isSome = true)
    (planned : r.upsert store x = .ok (y, batch)) :
    ∃ new c', c.Writes (fun _ _ => True) new c' ∧ (new.isSome = true ↔ r.NeedsId store.mended x) ∧
      (∀ id ∈ new, Record.id y = id) ∧ r.Keeps format (store.entries.apply batch) c' ∧
      IndexGiven region (store.entries.apply batch) c'.last := by
  obtain ⟨z, making, writing, settled, added, rfl⟩ := upsert_eq_ok placed.index planned
  rcases settle_eq_ok placed.index settled with
    ⟨id, hlookup, rfl, rfl⟩ | ⟨hlookup, rfl, ⟨zero, rfl⟩ | hid⟩
  · -- the id that the index leads to was given out
    obtain ⟨nonzero, le⟩ := given.of_lookup placed.index hlookup
    rw [← Record.id_withId x id] at nonzero le
    rw [add_of_ne_zero nonzero] at added
    cases added
    refine ⟨none, _, .known le fun _ _ => trivial, by simp [NeedsId, lookup_mended hlookup],
      by simp, ?_⟩
    exact h.point given placed nonzero le ((VettedApart.checkFields_withId ..).trans checked)
  · -- the id is the next one
    obtain ⟨up, rfl, rfl, -⟩ := h.add placed.apart zero checked added
    have raised := h.setLast placed.apart (UInt64.le_of_lt up)
    have aside := given.congr (placed.get?_apply (touches_setLast (c.last + 1)) store.entries)
    have own := Record.id_withId z (c.last + 1)
    rw [List.nil_append, List.append_assoc, Entries.apply_append]
    refine ⟨some (c.last + 1), _, .next up (h.get?_eq_none up) own,
      by simp [NeedsId, zero, lookup_mended hlookup],
      fun id hid => own.trans (Option.some.inj hid), ?_⟩
    refine raised.point (aside.mono (UInt64.le_of_lt up)) placed ?_ ?_ ?_
    · rw [own]
      intro zero
      rw [zero] at up
      exact absurd up (by simp)
    · rw [own]
      exact UInt64.le_refl _
    · exact (VettedApart.checkFields_withId ..).trans checked
  · -- the record brings its id along, and room has been made in the index
    obtain ⟨nonzero, found, -, making'⟩ := hid
    rw [add_of_ne_zero nonzero] at added
    cases added
    obtain ⟨previous, hprevious⟩ := Option.isSome_iff_exists.1 (known nonzero)
    obtain ⟨-, -, le, -⟩ := h.valid _ previous hprevious
    have changes : ∀ e ∈ making, IndexEdit region c.last e := by
      rcases making' with ⟨rfl, -⟩ | ⟨previous, -, -, rfl⟩
      · exact fun e he => absurd he List.not_mem_nil
      · intro e he
        rw [List.mem_singleton.1 he]
        exact .drop _
    obtain ⟨kept, given'⟩ := h.index given placed changes
    rw [List.append_assoc, Entries.apply_append]
    exact ⟨none, _, .known le fun _ _ => trivial, by simp [NeedsId, nonzero], by simp,
      kept.point given' placed nonzero le checked⟩

/-- **Entering a record under its pair** is a write.  It gives out an id exactly if the record needs
one, and that is what is answered then. -/
theorem enter_writes [Paired ρ] [VettedApart ρ] (h : r.Keeps format store.entries c)
    (given : IndexGiven region store.entries c.last) (placed : r.HasIndex region) {x : ρ}
    {settled : ρ → ρ} (spares : Spares format settled) {id : RecordId}
    (planned : r.enter format store x settled = .ok (id, batch)) :
    ∃ new c', c.Writes (fun _ _ => True) new c' ∧ (new.isSome = true ↔ r.NeedsId store.mended x) ∧
      (∀ n ∈ new, id = n) ∧ r.Keeps format (store.entries.apply batch) c' ∧
      IndexGiven region (store.entries.apply batch) c'.last := by
  obtain ⟨checked, known, y, hupsert, rfl⟩ := enter_eq_ok spares planned
  obtain ⟨new, c', writes, needs, answered, after⟩ := h.upsert_writes given placed checked
    (fun nonzero => (h.contains_eq_ok (known nonzero)).symm) hupsert
  rw [NeedsId, spares.id_eq, spares.pair_eq] at needs
  exact ⟨new, c', writes, needs, answered, after⟩

/-- Replacing a record by one with the same id is a write. -/
theorem replace_writes [Paired ρ] [FaithfulRecord ρ] (h : r.Keeps format store.entries c)
    (given : IndexGiven region store.entries c.last) (placed : r.HasIndex region)
    (within : store.entries.Within (Bytes.reach 8)) {change : ρ → ρ}
    (spares : Spares format change) {id : RecordId} {x : ρ}
    (found : r.find store id = .ok (some x)) :
    ∃ c', c.Writes (fun _ _ => True) none c' ∧
      r.Keeps format (store.entries.apply [r.entry (change x)]) c' ∧
      IndexGiven region (store.entries.apply [r.entry (change x)]) c'.last := by
  obtain ⟨own, nonzero, le, checked⟩ := h.valid id x (h.find_eq_ok within found).symm
  rw [← (spares.id_eq x).trans own] at nonzero le
  refine ⟨_, .known le fun _ _ => trivial,
    h.entry nonzero le ((spares.checkFields_eq x).trans checked), ?_⟩
  exact given.congr (placed.get?_apply (r.touches_entry r.records (change x)) store.entries)

end Keeps

namespace Orderly

variable {r : Register ρ} {format : AddressFormat} {store : Store}

theorem enter [Paired ρ] [VettedApart ρ] (h : r.Orderly region format store.entries)
    (placed : r.HasIndex region) {x : ρ} {settled : ρ → ρ} (spares : Spares format settled)
    {id : RecordId} (planned : r.enter format store x settled = .ok (id, batch)) :
    r.Orderly region format (store.entries.apply batch) := by
  obtain ⟨c, keeps, given⟩ := h
  obtain ⟨-, c', -, -, -, after⟩ := keeps.enter_writes given placed spares planned
  exact ⟨c', after⟩

/-- A record is replaced by one with the same id. -/
theorem replace [Paired ρ] [FaithfulRecord ρ] (h : r.Orderly region format store.entries)
    (placed : r.HasIndex region) (within : store.entries.Within (Bytes.reach 8)) {change : ρ → ρ}
    (spares : Spares format change) {id : RecordId} {x : ρ}
    (found : r.find store id = .ok (some x)) :
    r.Orderly region format (store.entries.apply [r.entry (change x)]) := by
  obtain ⟨c, keeps, given⟩ := h
  obtain ⟨c', -, after⟩ := keeps.replace_writes given placed within spares found
  exact ⟨c', after⟩

theorem load [Paired ρ] (h : r.Orderly region format store.entries) (placed : r.HasIndex region)
    {s : Section ρ} (planned : r.loadVettedPaired format store s = .ok ((), batch)) :
    r.Orderly region format (store.entries.apply batch) := by
  obtain ⟨c, keeps, given⟩ := h
  obtain ⟨rfl, -, ids, rfl, loaded⟩ := keeps.load_indexed placed planned
  refine ⟨_, loaded, ?_⟩
  rw [Entries.apply_append]
  have aside := given.congr (placed.get?_apply (r.touches_loading r.records s) store.entries)
  exact (aside.mono (UInt64.le_iff_toNat_le.2 (Nat.zero_le _))).apply (IndexGiven.indexing ids)

end Orderly

end Register

end PublicFunds
