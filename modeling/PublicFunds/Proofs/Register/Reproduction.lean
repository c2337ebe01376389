import PublicFunds.Proofs.Disbursement.Keeping
import PublicFunds.Proofs.Store.Alike

/-!
# An export reproduces a register

What a sound register exports passes every check that loading makes: its records were checked when
they were written, its ids were given out one by one, its index never held two ids under one pair,
and its totals are sums.  And what a store holds determines the store, except that a zero for the
last id may be missing.  So a store that the export is loaded into cannot be told apart from the one
that it came from.

* `Register.Contents.checkIds_values` and others: an export passes the checks.
* `Register.Keeps.alike`: contents determine the store.
* `Register.Sound.reproduce`, `Register.SoundPaired.reproduce`, `Disbursement.Sound.reproduce`: the
  three sorts of registers.
-/

namespace PublicFunds

/-- A region that is a map is determined by the map. -/
theorem Entries.Holds.get?_eq {α : Type} {e f : Entries} {region : UInt8} {form : Form α}
    {m : OrderedMap UInt64 α} (h : e.Holds region form m) (h' : f.Holds region form m)
    (rest : Bytes) : e.get? (region :: rest) = f.get? (region :: rest) := by
  by_cases here : ∃ id, region :: rest = Layout.idKey region id
  · obtain ⟨id, hid⟩ := here
    rw [hid, h.value, h'.value]
  · have absent : ∀ {g : Entries}, g.Holds region form m → g.get? (region :: rest) = none := by
      intro g hg
      rw [← Option.not_isSome_iff_eq_none]
      exact fun found => here (hg.alone rest found)
    rw [absent h, absent h']

namespace Register

variable {ρ : Type} [Record ρ]

/-- An index is determined by the records. -/
theorem Indexes.get?_eq [Paired ρ] {e f : Entries} {region : UInt8}
    {records : OrderedMap RecordId ρ} (h : Indexes region e records)
    (h' : Indexes region f records) (bs : Bytes) :
    e.get? (region :: bs) = f.get? (region :: bs) := by
  refine Option.ext fun value => ?_
  rw [h, h']

variable [Vetted ρ] {r : Register ρ} {region : UInt8} {format : AddressFormat} {c : Contents ρ}

/-- **What a store holds determines it**, up to a zero for the last id. -/
theorem Keeps.alike {e f : Entries} (h : r.Keeps format e c) (h' : r.Keeps format f c)
    (confined : r.Confined region e) (confined' : r.Confined region f)
    (same : ∀ rest, e.get? (region :: rest) = f.get? (region :: rest)) :
    Entries.Alike [r.counter] e f where
  elsewhere key counter := by
    have absent : ∀ {g : Entries}, r.Confined region g → key.head? ≠ some r.records →
        key.head? ≠ some region → g.get? key = none := by
      intro g hg records other
      rw [← Option.not_isSome_iff_eq_none]
      intro found
      rcases hg key found with here | here | here
      · exact counter here
      · exact records here
      · exact other here
    by_cases records : key.head? = some r.records
    · obtain ⟨rest, rfl⟩ := List.head?_eq_some_iff.1 records
      exact h.held.get?_eq h'.held rest
    · by_cases other : key.head? = some region
      · obtain ⟨rest, rfl⟩ := List.head?_eq_some_iff.1 other
        exact same rest
      · rw [absent confined records other, absent confined' records other]
  count := h.counter.trans h'.counter.symm

/-! ## What is exported passes the checks -/

namespace Contents

theorem checkAll_values (h : c.Valid format) :
    Vetted.checkAll format c.records.values = .ok () := by
  refine Vetted.checkAll_eq_ok_iff.2 fun x hx => ?_
  obtain ⟨id, found⟩ := get?_of_mem_values hx
  obtain ⟨rfl, nonzero, -, checked⟩ := h id x found
  rw [Vetted.check, if_neg nonzero, checked]

theorem checkIds_values (h : c.Valid format) :
    Section.checkIds ⟨c.records.values, c.last⟩ = .ok () := by
  refine Section.checkIds_eq_ok_iff.2 ⟨fun x hx => ?_, h.own.nodup_ids⟩
  obtain ⟨id, found⟩ := get?_of_mem_values hx
  obtain ⟨rfl, nonzero, given, -⟩ := h id x found
  exact ⟨nonzero, given⟩

omit [Vetted ρ] in
theorem checkPairs_values [Paired ρ] {entries : Entries} (own : c.Own)
    (indexes : Indexes region entries c.records) :
    Section.checkPairs ⟨c.records.values, c.last⟩ = .ok () := by
  have ids := own.nodup_ids
  refine Section.checkPairs_eq_ok_iff.2 ?_
  rw [List.Nodup, List.pairwise_map] at ids ⊢
  refine ids.imp_of_mem fun {x y} hx hy differ same => differ ?_
  exact indexes.id_eq (own.mem_values.1 hx) (own.mem_values.1 hy) (congrArg PairKey.bytes same)

end Contents

/-- A register that holds nothing says so. -/
theorem Keeps.isEmpty [FaithfulRecord ρ] {store : Store} (h : r.Keeps format store.entries .empty)
    (healthy : store.Healthy) : r.isEmpty store = .ok true := by
  have none : store.scan [r.records] = .ok [] := by
    rw [healthy.scan, h.held.startingWith]
    rfl
  rw [Register.isEmpty, h.last healthy]
  simp only [Contents.empty, if_true, asking, none]
  rfl

/-! ## Reproduction -/

section

variable [FaithfulRecord ρ] {store fresh : Store}

/-- **A register without an index** is reproduced. -/
theorem Sound.reproduce (h : r.Sound format store.entries)
    (within : store.entries.Within (Bytes.reach 8)) (healthy : store.Healthy)
    (apart : r.records ≠ r.counter) (blank : fresh.entries = .empty) (well : fresh.Healthy) :
    ∃ s batch, r.extract store = .ok s ∧ r.loadVetted format fresh s = .ok ((), batch) ∧
      Entries.Alike [r.counter] (fresh.entries.apply batch) store.entries := by
  obtain ⟨c, keeps, confined⟩ := h
  have unused : r.Keeps format fresh.entries .empty := blank ▸ r.keeps_empty format
  have planned : r.loadVetted format fresh ⟨c.records.values, c.last⟩ =
      .ok ((), r.loading ⟨c.records.values, c.last⟩) :=
    loadVetted_eq_ok_iff.2 ⟨unused.isEmpty well, Contents.checkAll_values keeps.valid,
      Contents.checkIds_values keeps.valid, rfl⟩
  refine ⟨_, _, keeps.extract within healthy, planned, ?_⟩
  obtain ⟨-, touches, loaded⟩ := unused.load apart planned r.records
  rw [Contents.ofSection_values keeps.valid] at loaded
  have confined' : r.Confined r.records fresh.entries := blank ▸ r.confined_empty _
  exact loaded.alike keeps (confined'.apply touches) confined (loaded.held.get?_eq keeps.held)

/-- **A register with an index** is reproduced, and its index with it. -/
theorem SoundPaired.reproduce [Paired ρ] (h : r.SoundPaired region format store.entries)
    (within : store.entries.Within (Bytes.reach 4)) (healthy : store.Healthy)
    (placed : r.HasIndex region) (blank : fresh.entries = .empty) (well : fresh.Healthy) :
    ∃ s batch, r.extract store = .ok s ∧ r.loadVettedPaired format fresh s = .ok ((), batch) ∧
      Entries.Alike [r.counter] (fresh.entries.apply batch) store.entries := by
  obtain ⟨c, keeps, indexes, confined⟩ := h
  have unused : r.Keeps format fresh.entries .empty := blank ▸ r.keeps_empty format
  have planned := (loadVettedPaired_eq_ok_iff placed.index).2 ⟨unused.isEmpty well,
    Contents.checkAll_values keeps.valid, Contents.checkPairs_values keeps.valid.own indexes,
    Contents.checkIds_values keeps.valid, rfl⟩
  refine ⟨_, _, keeps.extract (within.mono (by decide)) healthy, planned, ?_⟩
  have short : ∀ x ∈ c.records.values, (Paired.pair x).Short := by
    intro x hx
    exact PairKey.short_of_length
      (within _ _ (indexes.get?_pair (keeps.valid.own.mem_values.1 hx))).1
  obtain ⟨touches, loaded, indexes'⟩ := unused.loadPaired (blank ▸ indexes_empty region) placed
    planned short
  rw [Contents.ofSection_values keeps.valid] at loaded indexes'
  have confined' : r.Confined region fresh.entries := blank ▸ r.confined_empty _
  exact loaded.alike keeps (confined'.apply touches) confined (indexes'.get?_eq indexes)

end

end Register

/-- **The register of disbursements** is reproduced, and the totals with it. -/
theorem Disbursement.Sound.reproduce {format : AddressFormat} {store fresh : Store}
    (h : Disbursement.Sound format store.entries) (within : store.entries.Within (Bytes.reach 8))
    (healthy : store.Healthy) (blank : fresh.entries = .empty) (well : fresh.Healthy) :
    ∃ s batch, extract store = .ok s ∧ Disbursement.load format fresh s = .ok ((), batch) ∧
      Entries.Alike [register.counter] (fresh.entries.apply batch) store.entries := by
  obtain ⟨c, t, keeps, confined⟩ := h
  have unused : Keeps format fresh.entries .empty .empty := blank ▸ keeps_empty format
  have valid := keeps.register.valid
  have planned : Disbursement.load format fresh
      ⟨c.records.values, c.last, t.toList.map fun e => ⟨e.1, e.2⟩⟩ = .ok ((), _) :=
    load_eq_ok_iff.2 ⟨unused.register.isEmpty well, Register.Contents.checkAll_values valid,
      Register.Contents.checkIds_values valid, t,
      DisbursementSection.recompute_eq_ok keeps.positive keeps.sums c.last, rfl⟩
  refine ⟨_, _, keeps.extract within healthy, planned, ?_⟩
  obtain ⟨-, touches, sums, loaded⟩ := unused.load planned
  rw [DisbursementSection.toSection, Register.Contents.ofSection_values valid] at loaded
  obtain rfl : sums = t := Totals.ext loaded.sums.noZero keeps.sums.noZero fun p =>
    (loaded.sums.sum p).trans (keeps.sums.sum p).symm
  have confined' : register.Confined totals.region fresh.entries :=
    blank ▸ register.confined_empty _
  exact loaded.register.alike keeps.register (confined'.apply touches) confined
    (loaded.totals.get?_eq keeps.totals)

end PublicFunds
