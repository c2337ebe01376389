import PublicFunds.Proofs.Register.Loading

/-!
# Registers stay sound

A store is sound for a register if there are contents that it looks like, and if there is nothing
in it that does not belong to the register.  With an index, the index has to fit the records.
Everything that is ever written to a register keeps it sound: a new record, a record with another
status or endorsement, a record under its pair, and a section that is loaded.

* `Register.Sound`, `Register.SoundPaired`: soundness without and with an index.
* `Register.Keeps.revise`: the contents after a change of status or endorsement.
* `Register.Keeps.enterPaired`, `Register.Keeps.replacePaired`, `Register.Keeps.load_indexed`: the
  contents after a change of a register with an index.
* `Register.Sound.revise`, `Register.Sound.add`, `Register.Sound.load`: what keeps a register sound.
* `Register.Spares`: changes that concern neither ids, nor pairs, nor checks.
* `Register.SoundPaired.enter`, `Register.SoundPaired.replace`, `Register.SoundPaired.load`: the
  same with an index.
-/

namespace PublicFunds

namespace Register

variable {ρ : Type} [Record ρ] [Vetted ρ]

/-- A store is that of a register without an index. -/
def Sound (r : Register ρ) (format : AddressFormat) (entries : Entries) : Prop :=
  ∃ c, r.Keeps format entries c ∧ r.Confined r.records entries

/-- A store is that of a register with its index in a region. -/
def SoundPaired [Paired ρ] (r : Register ρ) (region : UInt8) (format : AddressFormat)
    (entries : Entries) : Prop :=
  ∃ c, r.Keeps format entries c ∧ Indexes region entries c.records ∧ r.Confined region entries

/-- An empty store is confined to anything. -/
theorem confined_empty {ρ : Type} (r : Register ρ) (region : UInt8) : r.Confined region .empty :=
  fun _ found => nomatch found

theorem sound_empty (r : Register ρ) (format : AddressFormat) : r.Sound format .empty :=
  ⟨_, r.keeps_empty format, r.confined_empty _⟩

omit [Vetted ρ] in
/-- The index of no records is empty. -/
theorem indexes_empty [Paired ρ] (region : UInt8) :
    Indexes region .empty (Contents.empty : Contents ρ).records := by
  intro bs value
  constructor
  · exact fun found => nomatch found
  · rintro ⟨id, x, found, -, -⟩
    cases found

theorem soundPaired_empty [Paired ρ] (r : Register ρ) (region : UInt8) (format : AddressFormat) :
    r.SoundPaired region format .empty :=
  ⟨_, r.keeps_empty format, indexes_empty region, r.confined_empty _⟩

/-! ## Records with another status or endorsement -/

section Revision

variable {σ : Type} [Lifecycle σ] [DecidableEq σ] [Governed ρ σ]

/-- The contents have been left alone, or a record has another status or another endorsement. -/
def Contents.Revised (c c' : Contents ρ) : Prop :=
  c' = c ∨ ∃ x y, c.records.get? (Record.id y) = some x ∧ Governed.Revises x y ∧ c' = c.put y

variable {r : Register ρ} {format : AddressFormat} {store : Store} {c : Contents ρ} {batch : Batch}

/-- **A revision changes one record.** -/
theorem Keeps.revise [FaithfulRecord ρ] (h : r.Keeps format store.entries c)
    (within : store.entries.Within (Bytes.reach 8)) (revised : r.RevisesIn format store batch)
    (region : UInt8) :
    r.Touches region batch ∧
      ∃ c', r.Keeps format (store.entries.apply batch) c' ∧ c.Revised c' := by
  obtain ⟨id, x, found, rfl | ⟨y, revises, checked, rfl⟩⟩ := revised
  · exact ⟨touches_nil, c, h, .inl rfl⟩
  · have stored := (h.find_eq_ok within found).symm
    obtain ⟨own, nonzero, given, -⟩ := h.valid id x stored
    have same : Record.id y = id := revises.id_eq.trans own
    rw [← same] at nonzero given stored
    exact ⟨r.touches_entry region y, c.put y,
      h.entry nonzero given (Vetted.of_check checked).2, .inr ⟨x, y, stored, revises, rfl⟩⟩

theorem Sound.revise [FaithfulRecord ρ] (h : r.Sound format store.entries)
    (within : store.entries.Within (Bytes.reach 8)) (revised : r.RevisesIn format store batch) :
    r.Sound format (store.entries.apply batch) := by
  obtain ⟨c, keeps, confined⟩ := h
  obtain ⟨touches, c', keeps', -⟩ := keeps.revise within revised r.records
  exact ⟨c', keeps', confined.apply touches⟩

end Revision

/-! ## New records and sections -/

section Writing

variable {r : Register ρ} {format : AddressFormat} {store : Store} {batch : Batch}

omit [Vetted ρ] in
theorem touches_map_entry (r : Register ρ) (region : UInt8) (records : List ρ) :
    r.Touches region (records.map r.entry) := by
  intro e he
  obtain ⟨x, -, rfl⟩ := List.mem_map.1 he
  exact .inr (.inl rfl)

omit [Vetted ρ] in
theorem touches_loading (r : Register ρ) (region : UInt8) (s : Section ρ) :
    r.Touches region (r.loading s) :=
  (r.touches_map_entry region s.records).append (touches_setLast _)

theorem Sound.add [VettedApart ρ] (h : r.Sound format store.entries)
    (apart : r.records ≠ r.counter) {x y : ρ} (new : Record.id x = 0)
    (checked : Vetted.checkFields format x = .ok ()) (planned : r.add store x = .ok (y, batch)) :
    r.Sound format (store.entries.apply batch) := by
  obtain ⟨c, keeps, confined⟩ := h
  obtain ⟨-, -, rfl, keeps'⟩ := keeps.add apart new checked planned
  exact ⟨_, keeps', confined.apply (r.touches_adding _ _ _)⟩

/-- A register that a section has been loaded into was unused, and holds exactly the section. -/
theorem Keeps.load {c : Contents ρ} (h : r.Keeps format store.entries c)
    (apart : r.records ≠ r.counter) {s : Section ρ}
    (planned : r.loadVetted format store s = .ok ((), batch)) (region : UInt8) :
    s.checkIds = .ok () ∧ r.Touches region batch ∧
      r.Keeps format (store.entries.apply batch) (.ofSection s) := by
  obtain ⟨unused, records, ids, rfl⟩ := loadVetted_eq_ok_iff.1 planned
  obtain rfl := h.eq_empty_of_isEmpty unused
  exact ⟨ids, r.touches_loading _ _, h.loading apart ids records⟩

theorem Sound.load (h : r.Sound format store.entries) (apart : r.records ≠ r.counter)
    {s : Section ρ} (planned : r.loadVetted format store s = .ok ((), batch)) :
    r.Sound format (store.entries.apply batch) := by
  obtain ⟨c, keeps, confined⟩ := h
  obtain ⟨-, touches, loaded⟩ := keeps.load apart planned r.records
  exact ⟨_, loaded, confined.apply touches⟩

variable [Paired ρ] {region : UInt8}

/-- A change of records concerns neither their ids, nor their pairs, nor the verdicts of their
checks. -/
structure Spares (format : AddressFormat) (change : ρ → ρ) : Prop where
  id_eq : ∀ x, Record.id (change x) = Record.id x
  pair_eq : ∀ x, Paired.pair (change x) = Paired.pair x
  checkFields_eq : ∀ x, Vetted.checkFields format (change x) = Vetted.checkFields format x

/-- What is known once a record has been entered under its pair: it passes its checks, an id that it
brings along is in use, and the record that was written has the id that is answered. -/
theorem enter_eq_ok {x : ρ} {settled : ρ → ρ} (spares : Spares format settled) {id : RecordId}
    (planned : r.enter format store x settled = .ok (id, batch)) :
    Vetted.checkFields format (settled x) = .ok () ∧
      (Record.id (settled x) ≠ 0 → r.contains store (Record.id (settled x)) = .ok true) ∧
      ∃ y, r.upsert store (settled x) = .ok (y, batch) ∧ id = Record.id y := by
  rw [spares.id_eq, spares.checkFields_eq]
  unfold Register.enter at planned
  split at planned
  · cases planned
  · next checked =>
    split at planned
    · cases planned
    · cases planned
    · next known =>
      refine ⟨checked, fun nonzero => by rwa [if_neg nonzero] at known, ?_⟩
      split at planned
      · cases planned
      · next y writing hupsert =>
        cases planned
        exact ⟨y, hupsert, rfl⟩

/-- What is written when a record is entered under its pair, and what that does to the contents. -/
theorem Keeps.enterPaired [FaithfulRecord ρ] [VettedApart ρ] {c : Contents ρ}
    (h : r.Keeps format store.entries c) (indexes : Indexes region store.entries c.records)
    (placed : r.HasIndex region) (within : store.entries.Within (Bytes.reach 8)) {x : ρ}
    {settled : ρ → ρ} (spares : Spares format settled) {id : RecordId}
    (planned : r.enter format store x settled = .ok (id, batch)) :
    ∃ y c', id = Record.id y ∧ c.Upserted (settled x) y c' ∧
      r.IndexedAfter format region store.entries batch c' := by
  obtain ⟨checked, known, y, hupsert, rfl⟩ := enter_eq_ok spares planned
  obtain ⟨c', upserted, after⟩ := h.upsert indexes placed within checked
    (fun nonzero => (h.contains_eq_ok (known nonzero)).symm) hupsert
  exact ⟨y, c', rfl, upserted, after⟩

theorem SoundPaired.enter [FaithfulRecord ρ] [VettedApart ρ]
    (h : r.SoundPaired region format store.entries) (placed : r.HasIndex region)
    (within : store.entries.Within (Bytes.reach 8)) {x : ρ} {settled : ρ → ρ}
    (spares : Spares format settled) {id : RecordId}
    (planned : r.enter format store x settled = .ok (id, batch)) :
    r.SoundPaired region format (store.entries.apply batch) := by
  obtain ⟨c, keeps, indexes, confined⟩ := h
  obtain ⟨y, c', -, -, after⟩ := keeps.enterPaired indexes placed within spares planned
  exact ⟨c', after.keeps, after.indexes, confined.apply after.touches⟩

/-- A record is replaced by one with the same id and the same pair. -/
theorem Keeps.replacePaired [FaithfulRecord ρ] {c : Contents ρ}
    (h : r.Keeps format store.entries c) (indexes : Indexes region store.entries c.records)
    (placed : r.HasIndex region) (within : store.entries.Within (Bytes.reach 8)) {change : ρ → ρ}
    (spares : Spares format change) {id : RecordId} {x : ρ}
    (found : r.find store id = .ok (some x)) :
    r.Keeps format (store.entries.apply [r.entry (change x)]) (c.put (change x)) ∧
      Indexes region (store.entries.apply [r.entry (change x)]) (c.put (change x)).records := by
  have stored := (h.find_eq_ok within found).symm
  obtain ⟨own, nonzero, given, checked⟩ := h.valid id x stored
  have same : Record.id (change x) = id := (spares.id_eq x).trans own
  have samePair := spares.pair_eq x
  rw [← same] at nonzero given stored
  refine ⟨h.entry nonzero given ((spares.checkFields_eq x).trans checked), ?_⟩
  have others := placed.get?_apply (r.touches_entry r.records (change x)) store.entries
  refine indexes.put ?_ ?_ (fun bs _ _ => others bs) ?_
  · rw [samePair]
    exact (others _).trans (indexes.get?_pair stored)
  · intro z hz differ
    rw [stored] at hz
    cases hz
    exact absurd (congrArg PairKey.bytes samePair.symm) differ
  · intro j z hz alike
    rw [samePair] at alike
    exact indexes.id_eq hz stored alike

theorem SoundPaired.replace [FaithfulRecord ρ] (h : r.SoundPaired region format store.entries)
    (placed : r.HasIndex region) (within : store.entries.Within (Bytes.reach 8)) {change : ρ → ρ}
    (spares : Spares format change) {id : RecordId} {x : ρ}
    (found : r.find store id = .ok (some x)) :
    r.SoundPaired region format (store.entries.apply [r.entry (change x)]) := by
  obtain ⟨c, keeps, indexes, confined⟩ := h
  obtain ⟨keeps', indexes'⟩ := keeps.replacePaired indexes placed within spares found
  exact ⟨_, keeps', indexes', confined.apply (r.touches_entry region (change x))⟩

omit [Vetted ρ] in
theorem inside_indexing (region : UInt8) (records : List ρ) :
    (indexing region records).Inside region := by
  intro e he
  obtain ⟨x, -, rfl⟩ := List.mem_map.1 he
  rfl

/-- What is known once a section and its index have been loaded into a register: it was unused, and
holds exactly the section. -/
theorem Keeps.load_indexed {c : Contents ρ} (h : r.Keeps format store.entries c)
    (placed : r.HasIndex region) {s : Section ρ}
    (planned : r.loadVettedPaired format store s = .ok ((), batch)) :
    c = .empty ∧ s.checkPairs = .ok () ∧ s.checkIds = .ok () ∧
      batch = r.loading s ++ indexing region s.records ∧
      r.Keeps format (store.entries.apply batch) (.ofSection s) := by
  obtain ⟨unused, records, pairs, ids, rfl⟩ := (loadVettedPaired_eq_ok_iff placed.index).1 planned
  obtain rfl := h.eq_empty_of_isEmpty unused
  refine ⟨rfl, pairs, ids, rfl, ?_⟩
  rw [Entries.apply_append]
  exact (h.loading placed.apart ids records).aside (inside_indexing region _) placed.records
    placed.counter

/-- A register that a section and its index have been loaded into holds exactly the section with its
index, if no pair is too long. -/
theorem Keeps.loadPaired {c : Contents ρ} (h : r.Keeps format store.entries c)
    (indexes : Indexes region store.entries c.records) (placed : r.HasIndex region)
    {s : Section ρ} (planned : r.loadVettedPaired format store s = .ok ((), batch))
    (short : ∀ x ∈ s.records, (Paired.pair x).Short) :
    r.Touches region batch ∧ r.Keeps format (store.entries.apply batch) (.ofSection s) ∧
      Indexes region (store.entries.apply batch) (Contents.ofSection s).records := by
  obtain ⟨rfl, pairs, ids, rfl, keeps⟩ := h.load_indexed placed planned
  have free : ∀ bs, (store.entries.apply (r.loading s)).get? (region :: bs) = none := by
    intro bs
    rw [placed.get?_apply (r.touches_loading r.records s)]
    cases found : store.entries.get? (region :: bs) with
    | none => rfl
    | some value =>
      obtain ⟨id, x, impossible, -, -⟩ := (indexes bs value).1 found
      cases impossible
  refine ⟨(r.touches_loading region s).append (.of_inside (inside_indexing region _)), keeps, ?_⟩
  rw [Entries.apply_append]
  exact Indexes.indexing free ids pairs short

theorem SoundPaired.load (h : r.SoundPaired region format store.entries)
    (placed : r.HasIndex region) {s : Section ρ}
    (planned : r.loadVettedPaired format store s = .ok ((), batch))
    (within : (store.entries.apply batch).Within (Bytes.reach 4)) :
    r.SoundPaired region format (store.entries.apply batch) := by
  obtain ⟨c, keeps, indexes, confined⟩ := h
  have short : ∀ x ∈ s.records, (Paired.pair x).Short := by
    obtain ⟨-, -, -, -, rfl⟩ := (loadVettedPaired_eq_ok_iff placed.index).1 planned
    rw [Entries.apply_append] at within
    exact pairs_short within
  obtain ⟨touches, keeps', indexes'⟩ :=
    keeps.loadPaired indexes placed planned short
  exact ⟨_, keeps', indexes', confined.apply touches⟩

end Writing

end Register

end PublicFunds
