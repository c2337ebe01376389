import PublicFunds.Proofs.Register.Listing
import PublicFunds.Proofs.Register.Sound

/-!
# A register with an index is a map with two sorts of keys

Records have ids, and where there is an index they have pairs as well.  From outside such a register
looks like a list of records in which no id and no pair comes up twice, whatever the index does
inside to keep it so.  A question by pair is a search through this list.  And writing a record under
its pair changes one record, at an id that can be said in advance, and the answers for the pairs of
this record and of the one it replaces, and nothing else.

That pairs are told apart by how they are stored takes that they are short.

* `Register.Filed`: a register whose index fits its records and whose pairs are short.
* `Register.KeyedMap`: what such a register looks like from outside.
* `Register.Upserts`: what is seen of writing a record under its pair.
* `Register.FiledAs.keyedMap`, `Register.FiledAs.upserts`: that it is so.
-/

namespace PublicFunds

namespace Register

variable {ρ : Type} [Record ρ] [Paired ρ]

/-! ## Searching contents by pair -/

namespace Contents

variable {c : Contents ρ} {p : PairKey} {x : ρ}

/-- The record with a pair, if there is one. -/
def under (c : Contents ρ) (p : PairKey) : Option ρ :=
  c.records.values.find? fun x => Paired.pair x = p

/-- No two records have one pair. -/
def Apart (c : Contents ρ) : Prop :=
  ∀ i j x y, c.records.get? i = some x → c.records.get? j = some y →
    Paired.pair x = Paired.pair y → i = j

/-- Different records have different pairs. -/
theorem Apart.nodup_pairs (apart : c.Apart) (own : c.Own) :
    (c.records.values.map Paired.pair).Nodup := by
  have ids := own.nodup_ids
  rw [List.Nodup, List.pairwise_map] at ids ⊢
  refine ids.imp_of_mem fun {x y} hx hy differ same => differ ?_
  exact apart _ _ _ _ (own.mem_values.1 hx) (own.mem_values.1 hy) same

theorem under_eq_none_iff (own : c.Own) :
    c.under p = none ↔ ∀ id x, c.records.get? id = some x → Paired.pair x ≠ p := by
  simp only [under, List.find?_eq_none, decide_eq_true_eq]
  constructor
  · exact fun none id x found => none x (own.mem_of_get? found).1
  · exact fun none x hx => none _ x (own.mem_values.1 hx)

theorem under_eq_some_iff (own : c.Own) (apart : c.Apart) :
    c.under p = some x ↔ c.records.get? (Record.id x) = some x ∧ Paired.pair x = p := by
  rw [under, find?_eq_some_iff_of_nodup (apart.nodup_pairs own), own.mem_values]

end Contents

theorem Indexes.apart {region : UInt8} {entries : Entries} {c : Contents ρ}
    (h : Indexes region entries c.records) : c.Apart :=
  fun _ _ _ _ hx hy same => h.id_eq hx hy (congrArg PairKey.bytes same)

/-- The index as a list: an entry for each record. -/
theorem Indexes.startingWith {region : UInt8} {entries : Entries} {c : Contents ρ}
    (h : Indexes region entries c.records) (own : c.Own) :
    (entries.startingWith [region]).Perm (c.records.values.map fun x =>
      (Layout.pairKey region (Paired.pair x), Layout.count (Record.id x))) := by
  have once : (entries.startingWith [region]).Nodup := by
    refine (Entries.ascending_startingWith entries [region]).imp fun {a b} hab same => ?_
    rw [same, OrderedMap.compare_self] at hab
    cases hab
  have once' : (c.records.values.map fun x =>
      (Layout.pairKey region (Paired.pair x), Layout.count (Record.id x))).Nodup := by
    have ids := own.nodup_ids
    rw [List.Nodup, List.pairwise_map] at ids ⊢
    exact ids.imp fun differ same => differ (Layout.count_inj.1 (Prod.mk.inj same).2)
  refine (List.perm_ext_iff_of_nodup once once').2 ?_
  rintro ⟨key, value⟩
  rw [Entries.mem_region, List.mem_map]
  constructor
  · rintro ⟨found, bs, rfl⟩
    obtain ⟨id, x, hx, rfl, rfl⟩ := (h bs value).1 found
    obtain ⟨there, hid⟩ := own.mem_of_get? hx
    exact ⟨x, there, by rw [hid]; rfl⟩
  · rintro ⟨x, hx, same⟩
    obtain ⟨rfl, rfl⟩ := Prod.mk.inj same
    exact ⟨h.get?_pair (own.mem_values.1 hx), _, rfl⟩

/-! ## Contents after a record is written under its pair -/

namespace Contents.Upserted

variable {c c' : Contents ρ} {x y : ρ}

theorem eq_withId (h : c.Upserted x y c') : y = Record.withId x (Record.id y) := by
  cases h with
  | takeOver found alike => rw [Record.id_withId]
  | enterNew zero up free => rw [Record.id_withId]
  | giveUp nonzero found free => rw [Record.withId_id]

theorem pair_eq (h : c.Upserted x y c') : Paired.pair y = Paired.pair x := by
  rw [h.eq_withId, Paired.pair_withId]

/-- One record is written. -/
theorem records_eq (h : c.Upserted x y c') : c'.records = c.records.insert (Record.id y) y := by
  cases h with
  | takeOver found alike => rfl
  | enterNew zero up free => rfl
  | giveUp nonzero found free => rfl

theorem get?_self (h : c.Upserted x y c') : c'.records.get? (Record.id y) = some y := by
  rw [h.records_eq, OrderedMap.get?_insert_self]

theorem get?_of_ne (h : c.Upserted x y c') {j : RecordId} (other : j ≠ Record.id y) :
    c'.records.get? j = c.records.get? j := by
  rw [h.records_eq, OrderedMap.get?_insert_of_ne _ other]

/-- The record with another pair is the same as before, unless it was replaced. -/
theorem under_eq (h : c.Upserted x y c') (own : c.Own) (apart : c.Apart) (own' : c'.Own)
    (apart' : c'.Apart) {p : PairKey} (other : p ≠ Paired.pair x)
    (unmoved : ∀ z, c.records.get? (Record.id y) = some z → Paired.pair z ≠ p) :
    c'.under p = c.under p := by
  refine Option.ext fun z => ?_
  rw [under_eq_some_iff own' apart', under_eq_some_iff own apart]
  by_cases here : Record.id z = Record.id y
  · rw [here, h.get?_self]
    constructor
    · rintro ⟨⟨⟩, pair⟩
      exact absurd (pair.symm.trans h.pair_eq) other
    · rintro ⟨stored, pair⟩
      exact absurd pair (unmoved z stored)
  · rw [h.get?_of_ne here]

end Contents.Upserted

/-! ## What is seen from outside -/

/-- What a register with an index looks like from outside.  The index has an entry for each record
and no other, which leads from its pair to its id; no two records have one pair; and a question by
pair is answered by the record that has it, or by saying that there is none. -/
structure KeyedMap (r : Register ρ) (region : UInt8) (store : Store) (xs : List ρ) : Prop where
  records : r.all store = .ok xs
  ids : (xs.map Record.id).Nodup
  index : (store.entries.startingWith [region]).Perm (xs.map fun x =>
    (Layout.pairKey region (Paired.pair x), Layout.count (Record.id x)))
  pairs : (xs.map Paired.pair).Nodup
  found : ∀ p : PairKey, p.Short → r.findByPair store p = .ok (xs.find? fun x => Paired.pair x = p)
  got : ∀ p : PairKey, p.Short → r.getByPair store p =
    (xs.find? fun x => Paired.pair x = p).elim (.error (.keyNotFound (Record.kind ρ) p.display)) .ok

/-- Where a record is written under its pair: at the id that the pair has; else at its own, which is
in use, and the pair of the record that was there has no record any more; else at the next id. -/
inductive Places (r : Register ρ) (before after : Store) (x : ρ) (id : RecordId) : Prop where
  | taken {y : ρ} (hit : r.findByPair before (Paired.pair x) = .ok (some y))
      (same : Record.id y = id)
  | own {y : ρ} (free : r.findByPair before (Paired.pair x) = .ok none)
      (nonzero : Record.id x ≠ 0) (same : Record.id x = id)
      (inUse : r.find before id = .ok (some y))
      (dropped : r.findByPair after (Paired.pair y) = .ok none)
  | next {last : RecordId} (free : r.findByPair before (Paired.pair x) = .ok none)
      (zero : Record.id x = 0) (lastId : r.last before = .ok last) (same : last + 1 = id)
      (up : last < id) (unused : r.find before id = .ok none)

/-- What is seen of writing a record under its pair: where it is, and that everything else is as it
was. -/
structure Upserts (r : Register ρ) (before after : Store) (x : ρ) (id : RecordId) : Prop where
  place : r.Places before after x id
  written : r.find after id = .ok (some (Record.withId x id))
  hit : r.findByPair after (Paired.pair x) = .ok (some (Record.withId x id))
  records : ∀ j, j ≠ id → r.find after j = r.find before j
  /-- The answers for other pairs, but for that of the record that was replaced. -/
  pairs : ∀ p : PairKey, p.Short → p ≠ Paired.pair x →
    (∀ y, r.find before id = .ok (some y) → Paired.pair y ≠ p) →
    r.findByPair after p = r.findByPair before p

/-! ## Registers whose pairs are short -/

variable [Vetted ρ]

/-- A store is that of a register with some contents.  The index fits the records, and their pairs
are short. -/
structure FiledAs (r : Register ρ) (region : UInt8) (format : AddressFormat) (entries : Entries)
    (c : Contents ρ) : Prop where
  keeps : r.Keeps format entries c
  indexes : Indexes region entries c.records
  short : ∀ id x, c.records.get? id = some x → (Paired.pair x).Short

/-- A store is that of a register whose index fits its records and whose pairs are short. -/
def Filed (r : Register ρ) (region : UInt8) (format : AddressFormat) (entries : Entries) : Prop :=
  ∃ c, r.FiledAs region format entries c

theorem filed_empty (r : Register ρ) (region : UInt8) (format : AddressFormat) :
    r.Filed region format .empty :=
  ⟨_, r.keeps_empty format, indexes_empty region, fun _ _ found => nomatch found⟩

/-! ## Questions -/

namespace FiledAs

variable {r : Register ρ} {region : UInt8} {format : AddressFormat} {store : Store}
  {c : Contents ρ} {p : PairKey}

/-- A question for an id by pair. -/
theorem lookup (h : r.FiledAs region format store.entries c) (index : r.index = some region)
    (healthy : store.Healthy) (short : p.Short) :
    r.lookup store p = .ok ((c.under p).map Record.id) := by
  unfold Register.lookup indexRegion
  simp only [index, healthy.find]
  cases hx : c.under p with
  | some x =>
    obtain ⟨stored, rfl⟩ := (Contents.under_eq_some_iff h.keeps.valid.own h.indexes.apart).1 hx
    simp only [h.indexes.get?_pair stored, Layout.countOf_count]
    rfl
  | none =>
    have free := (Contents.under_eq_none_iff h.keeps.valid.own).1 hx
    cases hbs : store.entries.get? (Layout.pairKey region p) with
    | none => rfl
    | some bs =>
      -- a record whose pair is stored like this one has this pair
      obtain ⟨id, x, found, alike, -⟩ := (h.indexes _ _).1 hbs
      exact absurd (PairKey.eq_of_bytes_eq (h.short id x found) short alike) (free id x found)

variable [FaithfulRecord ρ]

/-- A question for a record by pair. -/
theorem findByPair (h : r.FiledAs region format store.entries c) (index : r.index = some region)
    (within : store.entries.Within (Bytes.reach 8)) (healthy : store.Healthy) (short : p.Short) :
    r.findByPair store p = .ok (c.under p) := by
  rw [Register.findByPair, h.lookup index healthy short]
  cases hx : c.under p with
  | none => rfl
  | some x =>
    obtain ⟨stored, -⟩ := (Contents.under_eq_some_iff h.keeps.valid.own h.indexes.apart).1 hx
    simp only [Option.map_some, h.keeps.find within healthy, stored]

/-- **A register with an index looks like a map** from ids and from pairs. -/
theorem keyedMap (h : r.FiledAs region format store.entries c) (index : r.index = some region)
    (within : store.entries.Within (Bytes.reach 8)) (healthy : store.Healthy) :
    r.KeyedMap region store c.records.values where
  records := h.keeps.all within healthy
  ids := h.keeps.valid.own.nodup_ids
  index := h.indexes.startingWith h.keeps.valid.own
  pairs := h.indexes.apart.nodup_pairs h.keeps.valid.own
  found p short := h.findByPair index within healthy short
  got p short := by
    show _ = (c.under p).elim _ _
    rw [Register.getByPair, h.lookup index healthy short]
    cases hx : c.under p with
    | none => rfl
    | some x =>
      obtain ⟨stored, -⟩ := (Contents.under_eq_some_iff h.keeps.valid.own h.indexes.apart).1 hx
      simp only [Option.map_some, get, h.keeps.find within healthy, stored, Option.elim_some]

end FiledAs

/-! ## Writing under a pair -/

namespace FiledAs

variable [FaithfulRecord ρ] {r : Register ρ} {region : UInt8} {format : AddressFormat}
  {before after : Store} {c c' : Contents ρ} {x y : ρ}

/-- A pair that no record is stored under leads to no record. -/
theorem findByPair_of_frees (h : r.FiledAs region format before.entries c)
    (index : r.index = some region) (within : before.entries.Within (Bytes.reach 8))
    (healthy : before.Healthy) (short : (Paired.pair x).Short) (free : c.Frees x) :
    r.findByPair before (Paired.pair x) = .ok none := by
  rw [h.findByPair index within healthy short, (Contents.under_eq_none_iff h.keeps.valid.own).2]
  exact fun id z found same => free id z found (congrArg PairKey.bytes same)

section

variable (h : r.FiledAs region format before.entries c)
  (h' : r.FiledAs region format after.entries c') (index : r.index = some region)
  (upserted : c.Upserted x y c') (short : (Paired.pair x).Short)
  (within : before.entries.Within (Bytes.reach 8)) (healthy : before.Healthy)
  (within' : after.entries.Within (Bytes.reach 8)) (healthy' : after.Healthy)

include h h' index upserted short within healthy within' healthy'

/-- Where a record is written under its pair. -/
theorem places : r.Places before after x (Record.id y) := by
  have own := h.keeps.valid.own
  have apart := h.indexes.apart
  have find := h.keeps.find within healthy
  have unseen := h.findByPair_of_frees index within healthy short
  cases upserted with
  | @takeOver id previous found alike =>
    have pair := PairKey.eq_of_bytes_eq (h.short _ _ found) short alike
    have hid := own _ _ found
    refine .taken (y := previous) ?_ (hid.trans (Record.id_withId x id).symm)
    rw [h.findByPair index within healthy short, (Contents.under_eq_some_iff own apart).2]
    exact ⟨hid.symm ▸ found, pair⟩
  | enterNew zero up free =>
    rw [Record.id_withId]
    refine .next (unseen free) zero (h.keeps.last healthy) rfl up ?_
    rw [find, h.keeps.get?_eq_none up]
  | @giveUp previous nonzero found free =>
    refine .own (unseen free) nonzero rfl ((find _).trans (congrArg Except.ok found)) ?_
    rw [h'.findByPair index within' healthy' (h.short _ _ found),
      (Contents.under_eq_none_iff h'.keeps.valid.own).2]
    -- the only other record with that pair would be the one that was replaced
    intro id z stored same
    by_cases here : id = Record.id x
    · rw [here, Contents.Upserted.get?_self (.giveUp nonzero found free)] at stored
      cases stored
      exact free _ _ found (congrArg PairKey.bytes same.symm)
    · rw [Contents.Upserted.get?_of_ne (.giveUp nonzero found free) here] at stored
      exact here (apart _ _ _ _ stored found same)

/-- **Writing a record under its pair, seen from outside.** -/
theorem upserts : r.Upserts before after x (Record.id y) where
  place := h.places h' index upserted short within healthy within' healthy'
  written := by
    rw [h'.keeps.find within' healthy', upserted.get?_self, ← upserted.eq_withId]
  hit := by
    rw [h'.findByPair index within' healthy' short, ← upserted.eq_withId,
      (Contents.under_eq_some_iff h'.keeps.valid.own h'.indexes.apart).2]
    exact ⟨upserted.get?_self, upserted.pair_eq⟩
  records j other := by
    rw [h'.keeps.find within' healthy', h.keeps.find within healthy, upserted.get?_of_ne other]
  pairs p shortly other unmoved := by
    rw [h'.findByPair index within' healthy' shortly, h.findByPair index within healthy shortly,
      upserted.under_eq h.keeps.valid.own h.indexes.apart h'.keeps.valid.own h'.indexes.apart other]
    intro z found
    exact unmoved z ((h.keeps.find within healthy _).trans (congrArg Except.ok found))

end

end FiledAs

/-! ## What keeps it so -/

section Writing

variable {r : Register ρ} {region : UInt8} {format : AddressFormat} {store : Store} {batch : Batch}
  {c : Contents ρ}

/-- Entering a record with a short pair. -/
theorem FiledAs.enter [FaithfulRecord ρ] [VettedApart ρ]
    (h : r.FiledAs region format store.entries c) (placed : r.HasIndex region)
    (within : store.entries.Within (Bytes.reach 8)) {x : ρ} {settled : ρ → ρ}
    (spares : Spares format settled) (short : (Paired.pair x).Short) {id : RecordId}
    (planned : r.enter format store x settled = .ok (id, batch)) :
    ∃ y c', id = Record.id y ∧ c.Upserted (settled x) y c' ∧
      r.FiledAs region format (store.entries.apply batch) c' := by
  obtain ⟨y, c', hid, upserted, after⟩ :=
    h.keeps.enterPaired h.indexes placed within spares planned
  refine ⟨y, c', hid, upserted, after.keeps, after.indexes, ?_⟩
  rw [upserted.records_eq]
  refine OrderedMap.forall_get?_insert h.short ?_
  rwa [upserted.pair_eq, spares.pair_eq]

theorem Filed.enter [FaithfulRecord ρ] [VettedApart ρ] (h : r.Filed region format store.entries)
    (placed : r.HasIndex region) (within : store.entries.Within (Bytes.reach 8)) {x : ρ}
    {settled : ρ → ρ} (spares : Spares format settled) (short : (Paired.pair x).Short)
    {id : RecordId}
    (planned : r.enter format store x settled = .ok (id, batch)) :
    r.Filed region format (store.entries.apply batch) := by
  obtain ⟨c, filed⟩ := h
  obtain ⟨y, c', -, -, after⟩ := filed.enter placed within spares short planned
  exact ⟨c', after⟩

/-- A record is replaced by one with the same id and the same pair. -/
theorem Filed.replace [FaithfulRecord ρ] (h : r.Filed region format store.entries)
    (placed : r.HasIndex region) (within : store.entries.Within (Bytes.reach 8)) {change : ρ → ρ}
    (spares : Spares format change) {id : RecordId} {x : ρ}
    (found : r.find store id = .ok (some x)) :
    r.Filed region format (store.entries.apply [r.entry (change x)]) := by
  obtain ⟨c, keeps, indexes, short⟩ := h
  have stored := (keeps.find_eq_ok within found).symm
  obtain ⟨keeps', indexes'⟩ := keeps.replacePaired indexes placed within spares found
  refine ⟨_, keeps', indexes', OrderedMap.forall_get?_insert short ?_⟩
  rw [spares.pair_eq]
  exact short id x stored

/-- Loading a section with short pairs. -/
theorem Filed.load (h : r.Filed region format store.entries) (placed : r.HasIndex region)
    {s : Section ρ} (short : ∀ x ∈ s.records, (Paired.pair x).Short)
    (planned : r.loadVettedPaired format store s = .ok ((), batch)) :
    r.Filed region format (store.entries.apply batch) := by
  obtain ⟨c, keeps, indexes, -⟩ := h
  obtain ⟨-, -, ids, -, -⟩ := keeps.load_indexed placed planned
  obtain ⟨-, keeps', indexes'⟩ :=
    keeps.loadPaired indexes placed planned short
  exact ⟨_, keeps', indexes', fun id x found => short x ((Contents.get?_ofSection ids).1 found).1⟩

end Writing

end Register

end PublicFunds
