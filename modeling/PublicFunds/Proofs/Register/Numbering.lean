import PublicFunds.Proofs.Register.Arrangement

/-!
# The numbers of records

Every record of a register stands under a key that is made of its id and of nothing else, and ids
count up from one.  The last id that was given out is kept beside them, so that no record has an id
above it.  Since the keys are in the order of the ids, whoever goes through the records in whatever
way meets each of them once, with its id above those before it.

* `Register.Numbered`: everything that can be asked about the ids of a register.
* `Register.Keeps.numbered`: a register that holds something is numbered.
-/

namespace PublicFunds

namespace Register

variable {ρ : Type} [Record ρ]

/-- Some records, and the last id that was given out, as a register shows them. -/
structure Numbered (r : Register ρ) (store : Store) (records : List ρ) (last : RecordId) :
    Prop where
  /-- The last id that was given out. -/
  counted : r.last store = .ok last
  /-- The keys of records are those of their ids. -/
  keys : store.entries.startingWith [r.records] = records.map fun x =>
    (Layout.idKey r.records (Record.id x), (Record.form : Form ρ).encode x)
  /-- An id is at least one and at most the last. -/
  given : ∀ x ∈ records, 1 ≤ Record.id x ∧ Record.id x ≤ last
  /-- The ids strictly ascend, so none comes up twice. -/
  ascending : records.Pairwise fun x y => Record.id x < Record.id y
  /-- Whatever is looked up is the record with the id. -/
  found : ∀ id, r.find store id = .ok (records.find? fun x => Record.id x = id)
  /-- The ids that are in use. -/
  ids : r.ids store = .ok (records.map Record.id)
  /-- All records. -/
  all : r.all store = .ok records
  /-- Walking through the records visits them in this order until a visit is the last one. -/
  walk : ∀ {α : Type} (f : α → ρ → ForInStep α) (state : α),
    r.walk store f state = visit f state (records.map .ok)
  /-- The first records; at least one is visited. -/
  first : ∀ limit, r.walkList store (some limit) = .ok (records.take (max 1 limit))
  /-- The export. -/
  exported : r.extract store = .ok ⟨records, last⟩

omit [Record ρ] in
/-- Going through records up to some number shows the first of them. -/
theorem visit_limit (limit : Nat) (records seen : List ρ) :
    visit (fun (seen : List ρ) record => if limit ≤ seen.length + 1 then .done (record :: seen)
      else .yield (record :: seen)) seen (records.map .ok) =
        .ok ((records.take (max 1 (limit - seen.length))).reverse ++ seen) := by
  induction records generalizing seen with
  | nil => simp [visit]
  | cons x records ih =>
    rw [List.map_cons, visit]
    by_cases done : limit ≤ seen.length + 1
    · have one : max 1 (limit - seen.length) = 1 := by omega
      simp [done, one]
    · have more : max 1 (limit - seen.length) = max 1 (limit - (seen.length + 1)) + 1 := by omega
      simp only [done, if_false]
      rw [ih, List.length_cons, more, List.take_succ_cons, List.reverse_cons, List.append_assoc,
        List.singleton_append]

/-- The ids in the keys of records are those of the records. -/
theorem idsOf_map_idKey {α : Type} (kind : String) (region : UInt8) (id : α → RecordId)
    (encode : α → Bytes) (l : List α) :
    idsOf kind (l.map fun a => (Layout.idKey region (id a), encode a)) = .ok (l.map id) := by
  induction l with
  | nil => rfl
  | cons a l ih =>
    rw [List.map_cons, idsOf, Layout.idOfKey_idKey]
    simp only [ih]
    rfl

/-- The ids of the records of a register are an ascending list. -/
theorem Contents.Own.pairwise_ids {c : Contents ρ} (own : c.Own) :
    c.records.values.Pairwise fun x y => Record.id x < Record.id y := by
  have keys := c.records.pairwise_keys
  rw [OrderedMap.keys, List.pairwise_map] at keys
  rw [OrderedMap.values, List.pairwise_map]
  refine keys.imp_of_mem fun {e f} he hf before => ?_
  rw [own e.1 e.2 (c.records.get?_eq_some_iff.2 he), own f.1 f.2 (c.records.get?_eq_some_iff.2 hf)]
  exact before

/-- **A register in good health is numbered.** -/
theorem Keeps.numbered [Vetted ρ] [FaithfulRecord ρ] {r : Register ρ} {format : AddressFormat}
    {store : Store} {c : Contents ρ} (h : r.Keeps format store.entries c)
    (within : store.entries.Within (Bytes.reach 8)) (healthy : store.Healthy) :
    r.Numbered store c.records.values c.last := by
  have own := h.valid.own
  have listed : store.entries.startingWith [r.records] = c.records.values.map fun x =>
      (Layout.idKey r.records (Record.id x), (Record.form : Form ρ).encode x) := by
    rw [h.held.startingWith, OrderedMap.values, List.map_map]
    refine List.map_congr_left fun e he => ?_
    rw [Function.comp_apply, own e.1 e.2 (c.records.get?_eq_some_iff.2 he)]
  have walk : ∀ {α : Type} (f : α → ρ → ForInStep α) (state : α),
      r.walk store f state = visit f state (c.records.values.map .ok) := by
    intro α f state
    unfold Register.walk
    rw [h.each within healthy]
  exact {
    counted := h.last healthy
    keys := listed
    given := by
      intro x hx
      obtain ⟨-, nonzero, le, -⟩ := h.valid _ x (own.mem_values.1 hx)
      exact ⟨UInt64.pos_iff_ne_zero.2 nonzero, le⟩
    ascending := own.pairwise_ids
    found := by
      intro id
      have distinct := own.nodup_ids
      rw [h.find within healthy]
      refine congrArg Except.ok (Option.ext fun x => ?_)
      rw [find?_eq_some_iff_of_nodup distinct]
      constructor
      · exact fun found => own.mem_of_get? found
      · rintro ⟨hx, rfl⟩
        exact own.mem_values.1 hx
    ids := by
      unfold Register.ids
      rw [healthy.scan, listed]
      exact idsOf_map_idKey ..
    all := h.all within healthy
    walk := walk
    first := by
      intro limit
      unfold walkList
      rw [walk]
      simp only [visit_limit, Except.map, List.append_nil, List.reverse_reverse, List.length_nil,
        Nat.sub_zero]
    exported := h.extract within healthy }

end Register

end PublicFunds
