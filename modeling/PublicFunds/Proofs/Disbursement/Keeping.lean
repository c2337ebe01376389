import PublicFunds.Proofs.Disbursement.Sums
import PublicFunds.Proofs.Register.Listing
import PublicFunds.Proofs.Register.Sound

/-!
# Disbursements and their totals together

The store of disbursements holds two things that say the same, the disbursements and what they come
to for each procurement.  Both are written in one batch, so they cannot come apart: a new
disbursement brings its total with it, a disbursement that goes on or is approved keeps its amount,
and the totals of a section that is loaded are worked out from its records.

* `Disbursement.Keeps`: what the store of disbursements holds.
* `Disbursement.totalWithin?_eq_some_iff`, `Disbursement.totalWithin?_eq_none_iff`: the cap.
* `Disbursement.Keeps.enter`: a new disbursement, and the cap that it respects.
* `Disbursement.Keeps.revise`, `Disbursement.Keeps.load`: the other changes.
* `Disbursement.Sound`: the store is that of disbursements with their totals.
-/

namespace PublicFunds

/-! ## Tallies -/

namespace Tally

variable {α : Type} {t : Tally α} {store : Store} {m : OrderedMap UInt64 α}

/-- The stored bytes of a value are read as the value. -/
theorem read_eq (held : store.entries.Holds t.region t.form m) (faithful : t.form.Faithful)
    (within : store.entries.Within (Bytes.reach 8)) {id : RecordId} {a : α}
    (found : m.get? id = some a) : Register.read t.kind t.form (t.form.encode a) = .ok a := by
  have stored : store.entries.get? (Layout.idKey t.region id) = some (t.form.encode a) := by
    rw [held.value, found]
    rfl
  exact Register.read_encode faithful _ (within _ _ stored).2

/-- A value that is found is the one that the tally holds. -/
theorem find_eq_ok (held : store.entries.Holds t.region t.form m) (faithful : t.form.Faithful)
    (within : store.entries.Within (Bytes.reach 8)) {id : RecordId} {result : Option α}
    (found : t.find store id = .ok result) : result = m.get? id := by
  unfold find at found
  split at found
  · cases found
  · next hfind =>
    cases found
    have absent := (Store.find_eq_ok hfind).symm
    rw [held.value, Option.map_eq_none_iff] at absent
    exact absent.symm
  · next bs hfind =>
    obtain ⟨a, ha, rfl⟩ := held.get?_eq_some (Store.find_eq_ok hfind).symm
    rw [read_eq held faithful within ha] at found
    cases found
    exact ha.symm

/-- The value for an id is found. -/
theorem find_eq (held : store.entries.Holds t.region t.form m) (faithful : t.form.Faithful)
    (within : store.entries.Within (Bytes.reach 8)) (healthy : store.Healthy) (id : RecordId) :
    t.find store id = .ok (m.get? id) := by
  unfold find
  rw [healthy.find, held.value]
  cases ha : m.get? id with
  | none => rfl
  | some a => simp only [Option.map_some, read_eq held faithful within ha, Except.map]

/-- All values can be read, and they come in the order of their ids. -/
theorem entries_eq (held : store.entries.Holds t.region t.form m) (faithful : t.form.Faithful)
    (within : store.entries.Within (Bytes.reach 8)) (healthy : store.Healthy) :
    t.entries store = .ok m.toList := by
  have each : ∀ l : List (RecordId × α), (∀ e ∈ l, m.get? e.1 = some e.2) →
      t.readEntries (l.map fun e => (Layout.idKey t.region e.1, t.form.encode e.2)) = .ok l := by
    intro l hl
    induction l with
    | nil => rfl
    | cons e l ih =>
      have value := read_eq held faithful within (hl e (List.mem_cons_self ..))
      rw [List.map_cons, readEntries]
      simp only [Layout.idOfKey_idKey, value, ih fun e he => hl e (List.mem_cons_of_mem _ he)]
      rfl
  unfold entries
  rw [healthy.scan, held.startingWith]
  exact each m.toList fun e he => m.get?_eq_some_iff.2 he

end Tally

namespace Disbursement

open Register

/-- Amounts are read back. -/
theorem faithful_totals : totals.form.Faithful := Form.faithful_amount

/-- A disbursement that passes its checks pays something. -/
theorem amount_ne_zero {format : AddressFormat} {d : Disbursement}
    (h : Vetted.checkFields format d = .ok ()) : d.amount ≠ .zero := by
  have passed := Check.all_eq_ok_iff.1 h (Check.require (d.amount != .zero)
    (.invalid (Record.kind Disbursement) (.notPositive "amount"))) (by simp)
  rwa [Check.require_eq_ok, bne_iff_ne] at passed

/-- A disbursement that goes on or is approved keeps its procurement and its amount. -/
theorem revises_eq {d e : Disbursement} (h : Governed.Revises d e) :
    e.procurement = d.procurement ∧ e.amount = d.amount := by
  cases h with
  | status s follows => exact ⟨rfl, rfl⟩
  | endorsement e contract => exact ⟨rfl, rfl⟩

/-- The store of disbursements holds them and the totals that they come to. -/
structure Keeps (format : AddressFormat) (entries : Entries) (c : Contents Disbursement)
    (t : Totals) : Prop where
  register : Disbursement.register.Keeps format entries c
  totals : entries.Holds Disbursement.totals.region Disbursement.totals.form t
  sums : t.AreSums c.records.values

/-- A store is that of disbursements with their totals. -/
def Sound (format : AddressFormat) (entries : Entries) : Prop :=
  ∃ c t, Keeps format entries c t ∧ register.Confined totals.region entries

theorem keeps_empty (format : AddressFormat) : Keeps format .empty .empty .empty where
  register := register.keeps_empty format
  totals := Entries.holds_empty (fun _ => rfl) _
  sums := ⟨Totals.noZero_empty, fun _ => rfl⟩

theorem sound_empty (format : AddressFormat) : Sound format .empty :=
  ⟨_, _, keeps_empty format, register.confined_empty _⟩

namespace Keeps

variable {format : AddressFormat} {store : Store} {c : Contents Disbursement} {t : Totals}
  {batch : Batch}

/-- The disbursements that are held pay something. -/
theorem positive (h : Keeps format store.entries c t) :
    ∀ d ∈ c.records.values, d.amount ≠ .zero := by
  intro d hd
  obtain ⟨id, found⟩ := Contents.get?_of_mem_values hd
  exact amount_ne_zero (h.register.valid id d found).2.2.2

/-- What is said to have been disbursed was. -/
theorem total_eq_ok (h : Keeps format store.entries c t)
    (within : store.entries.Within (Bytes.reach 8)) {p : RecordId} {a : Amount}
    (found : total store p = .ok a) : a.toNat = t.paid p := by
  unfold total at found
  cases hfind : Disbursement.totals.find store p with
  | error e =>
    rw [hfind] at found
    cases found
  | ok result =>
    rw [hfind] at found
    cases found
    rw [Tally.find_eq_ok h.totals faithful_totals within hfind, Totals.paid]

/-- What has been disbursed is found. -/
theorem total_eq (h : Keeps format store.entries c t)
    (within : store.entries.Within (Bytes.reach 8)) (healthy : store.Healthy) (p : RecordId) :
    total store p = .ok ((t.get? p).getD .zero) := by
  rw [total, Tally.find_eq h.totals faithful_totals within healthy]
  rfl

/-- The totals are found to be right. -/
theorem verify (h : Keeps format store.entries c t)
    (within : store.entries.Within (Bytes.reach 8)) (healthy : store.Healthy) :
    verify store = .ok () := by
  have read := Register.Keeps.all h.register within healthy
  have sums := (sums_eq_ok_iff h.positive).2 h.sums
  have stored := Tally.entries_eq h.totals faithful_totals within healthy
  unfold Disbursement.verify
  simp only [read, sums, stored, compareTotals_self]
  rfl

/-- Everything that the store holds. -/
theorem extract (h : Keeps format store.entries c t)
    (within : store.entries.Within (Bytes.reach 8)) (healthy : store.Healthy) :
    extract store = .ok ⟨c.records.values, c.last, t.toList.map fun e => ⟨e.1, e.2⟩⟩ := by
  have section' := Register.Keeps.extract h.register within healthy
  have stored := Tally.entries_eq h.totals faithful_totals within healthy
  simp only [Disbursement.extract, section', stored]

/-- A revision keeps the totals. -/
theorem revise (h : Keeps format store.entries c t)
    (within : store.entries.Within (Bytes.reach 8))
    (revised : Disbursement.register.RevisesIn format store batch) :
    Disbursement.register.Touches Disbursement.totals.region batch ∧
      ∃ c', Keeps format (store.entries.apply batch) c' t ∧ c.Revised c' := by
  obtain ⟨touches, c', keeps', change⟩ :=
    h.register.revise within revised Disbursement.register.records
  refine ⟨fun e he => ?_, c', ⟨keeps', ?_, ?_⟩, change⟩
  · rcases touches e he with h | h | h
    · exact .inl h
    · exact .inr (.inl h)
    · exact .inr (.inl h)
  · exact h.totals.congr (touches.get?_apply_cons (by decide) (by decide) (by decide) _)
  · rcases change with rfl | ⟨x, y, found, revises, rfl⟩
    · exact h.sums
    · obtain ⟨front, back, before, after⟩ := Contents.values_put_of_some found
      have sums := h.sums
      rw [before] at sums
      rw [after]
      exact sums.replace (revises_eq revises).1 (revises_eq revises).2

end Keeps

/-! ## New disbursements -/

section Entering

variable {format : AddressFormat} {store : Store} {procurements : ProcurementSource}
  {d : Disbursement} {id : RecordId} {batch : Batch}

/-- A total within a cap is the exact sum, and at most the cap. -/
theorem totalWithin?_eq_some_iff {disbursed amount cap total : Amount} :
    totalWithin? disbursed amount cap = some total ↔
      disbursed.toNat + amount.toNat = total.toNat ∧ total.toNat ≤ cap.toNat := by
  unfold totalWithin?
  rw [← Amount.add?_eq_some_iff]
  cases disbursed.add? amount with
  | none => simp
  | some sum =>
    show (if sum ≤ cap then some sum else none) = some total ↔ _
    constructor
    · intro h
      split at h
      · next le =>
        cases h
        exact ⟨rfl, le⟩
      · cases h
    · rintro ⟨⟨⟩, le⟩
      exact if_pos le

/-- There is no total within a cap exactly if the exact sum is more than the cap, whether or not it
is an amount. -/
theorem totalWithin?_eq_none_iff {disbursed amount cap : Amount} :
    totalWithin? disbursed amount cap = none ↔ cap.toNat < disbursed.toNat + amount.toNat := by
  rw [Option.eq_none_iff_forall_ne_some]
  constructor
  · intro none
    refine Nat.lt_of_not_le fun le => ?_
    have fits : disbursed.toNat + amount.toNat < Amount.size := Nat.lt_of_le_of_lt le cap.toNat_lt
    exact none ⟨_, fits⟩ (totalWithin?_eq_some_iff.2 ⟨rfl, le⟩)
  · intro exceeds total within
    obtain ⟨sum, le⟩ := totalWithin?_eq_some_iff.1 within
    omega

/-- What is known once a disbursement has been entered. -/
theorem enter_eq_ok (h : enter format store procurements d = .ok (id, batch)) :
    ∃ p disbursed total y writing, id = Record.id y ∧
      checkFields format (Governed.fresh d) = .ok () ∧ procurements d.procurement = .ok (some p) ∧
      Disbursement.total store d.procurement = .ok disbursed ∧
      disbursed.toNat + d.amount.toNat = total.toNat ∧ total.toNat ≤ p.amount.toNat ∧
      register.add store (Governed.fresh d) = .ok (y, writing) ∧
      batch = writing ++ [totals.entry y.procurement total] := by
  unfold enter at h
  simp only at h
  split at h
  · cases h
  · next checked =>
    split at h
    · cases h
    · cases h
    · next p found =>
      unfold enterFor at h
      split at h
      · cases h
      · next disbursed paid =>
        split at h
        · cases h
        · next total within =>
          obtain ⟨sum, le⟩ := totalWithin?_eq_some_iff.1 within
          split at h
          · cases h
          · next y writing added =>
            cases h
            exact ⟨p, disbursed, total, y, writing, rfl, checked, found, paid, sum, le, added, rfl⟩

/-- A total is written in the region of totals. -/
theorem inside_total (p : RecordId) (total : Amount) :
    Batch.Inside totals.region [totals.entry p total] := by
  intro e he
  rw [List.mem_singleton.1 he]
  rfl

/-- A disbursement that is written under the next id, with its total. -/
theorem Keeps.entered {c : Contents Disbursement} {t : Totals} (h : Keeps format store.entries c t)
    (checked : checkFields format (Governed.fresh d) = .ok ()) {y : Disbursement} {writing : Batch}
    (added : Disbursement.register.add store (Governed.fresh d) = .ok (y, writing))
    {total : Amount}
    (sum : t.paid d.procurement + d.amount.toNat = total.toNat) :
    c.last < c.last + 1 ∧ y = Record.withId (Governed.fresh d) (c.last + 1) ∧
      writing = Disbursement.register.setLast (c.last + 1) ++ [Disbursement.register.entry y] ∧
      Keeps format
        (store.entries.apply (writing ++ [Disbursement.totals.entry d.procurement total]))
        (Contents.put { c with last := c.last + 1 } y) (t.insert d.procurement total) := by
  obtain ⟨up, hy, rfl, keeps⟩ := h.register.add (by decide) rfl checked added
  have hid : Record.id y = c.last + 1 := by rw [hy, Record.id_withId]
  have procurement : y.procurement = d.procurement := by rw [hy]; rfl
  have amount : y.amount = d.amount := by rw [hy]; rfl
  refine ⟨up, hy, rfl, ?_⟩
  rw [Entries.apply_append]
  refine ⟨keeps.aside (inside_total _ total) (by decide) (by decide), ?_, ?_⟩
  · have touches :=
      touches_adding Disbursement.register Disbursement.register.records (c.last + 1) y
    refine Entries.Holds.insert (h.totals.congr ?_) _ _
    exact touches.get?_apply_cons (by decide) (by decide) (by decide) _
  · have free := h.register.get?_eq_none up
    rw [← hid] at free
    obtain ⟨front, back, before, after⟩ :=
      Contents.values_put_of_none (c := { c with last := c.last + 1 }) free
    have sums : t.AreSums (front ++ back) := before ▸ h.sums
    have positive : y.amount ≠ .zero := by
      rw [amount]
      exact amount_ne_zero (d := Governed.fresh d) checked
    rw [← procurement, ← amount] at sum
    rw [after, ← procurement]
    exact sums.enter positive sum

/-- **A new disbursement.**  It gets the next id, its total is written with it, and everything that
was disbursed for its procurement is at most the amount that was looked up. -/
theorem Keeps.enter {c : Contents Disbursement} {t : Totals} (h : Keeps format store.entries c t)
    (within : store.entries.Within (Bytes.reach 8))
    (planned : enter format store procurements d = .ok (id, batch)) :
    Disbursement.register.Touches Disbursement.totals.region batch ∧ ∃ p total y,
      id = Record.id y ∧ procurements y.procurement = .ok (some p) ∧ Record.id y = c.last + 1 ∧
      c.last < c.last + 1 ∧ total.toNat ≤ p.amount.toNat ∧
      Keeps format (store.entries.apply batch) (Contents.put { c with last := c.last + 1 } y)
        (t.insert y.procurement total) := by
  obtain ⟨p, disbursed, total, y, writing, answer, checked, found, paid, sum, le, added, rfl⟩ :=
    enter_eq_ok planned
  rw [h.total_eq_ok within paid] at sum
  obtain ⟨up, hy, rfl, keeps⟩ := h.entered checked added sum
  have hid : Record.id y = c.last + 1 := by rw [hy, Record.id_withId]
  have procurement : y.procurement = d.procurement := by rw [hy]; rfl
  rw [← procurement] at found keeps
  exact ⟨(touches_adding _ _ _ _).append (.of_inside (inside_total _ total)), p, total, y,
    answer, found, hid, up, le, keeps⟩

end Entering

/-! ## Sections of disbursements -/

section Loading

variable {format : AddressFormat} {store : Store} {s : DisbursementSection} {batch : Batch}

theorem inside_tallying (sums : Totals) : (tallying sums).Inside totals.region := by
  intro e he
  obtain ⟨entry, -, rfl⟩ := List.mem_map.1 he
  rfl

/-- Totals that are written one after the other are all there are. -/
theorem holds_tallying {entries : Entries}
    (h : entries.Holds totals.region totals.form (.empty : Totals)) (sums : Totals) :
    Entries.Holds (entries.apply (tallying sums)) totals.region totals.form sums := by
  have written := h.apply_puts sums.toList
  rwa [show sums.toList.foldl (fun m e => OrderedMap.insert m e.1 e.2) .empty = sums from
    sums.ofList_toList] at written

/-- **A section that is loaded.**  The book was unused, and holds exactly the section afterwards. -/
theorem Keeps.load {c : Contents Disbursement} {t : Totals} (h : Keeps format store.entries c t)
    (planned : load format store s = .ok ((), batch)) :
    s.toSection.checkIds = .ok () ∧
      Disbursement.register.Touches Disbursement.totals.region batch ∧
        ∃ sums, Keeps format (store.entries.apply batch) (.ofSection s.toSection) sums := by
  obtain ⟨unused, records, ids, sums, recomputed, rfl⟩ := load_eq_ok_iff.1 planned
  obtain rfl := h.register.eq_empty_of_isEmpty unused
  obtain rfl : t = .empty := Totals.ext h.sums.noZero Totals.noZero_empty fun p => h.sums.sum p
  have positive : ∀ d ∈ s.records, d.amount ≠ .zero :=
    fun d hd => amount_ne_zero (Vetted.of_check (Vetted.checkAll_eq_ok_iff.1 records d hd)).2
  have exact := DisbursementSection.areSums_of_recompute positive recomputed
  refine ⟨ids, (touches_loading _ _ _).append (.of_inside (inside_tallying sums)), sums, ?_⟩
  rw [Entries.apply_append]
  refine ⟨?_, ?_, exact.noZero, fun p => ?_⟩
  · exact (h.register.loading (by decide) ids records).aside (inside_tallying sums) (by decide)
      (by decide)
  · have touches := touches_loading Disbursement.register Disbursement.register.records s.toSection
    refine holds_tallying (h.totals.congr ?_) sums
    exact touches.get?_apply_cons (by decide) (by decide) (by decide) _
  · rw [exact.sum, paidFor_perm p (Contents.values_ofSection ids), DisbursementSection.toSection]

end Loading

/-! ## Soundness -/

namespace Sound

variable {format : AddressFormat} {store : Store} {batch : Batch}

theorem revise (h : Sound format store.entries) (within : store.entries.Within (Bytes.reach 8))
    (revised : register.RevisesIn format store batch) :
    Sound format (store.entries.apply batch) := by
  obtain ⟨c, t, keeps, confined⟩ := h
  obtain ⟨touches, c', keeps', -⟩ := keeps.revise within revised
  exact ⟨c', t, keeps', confined.apply touches⟩

theorem enter (h : Sound format store.entries) (within : store.entries.Within (Bytes.reach 8))
    {procurements : ProcurementSource} {d : Disbursement} {id : RecordId}
    (planned : Disbursement.enter format store procurements d = .ok (id, batch)) :
    Sound format (store.entries.apply batch) := by
  obtain ⟨c, t, keeps, confined⟩ := h
  obtain ⟨touches, p, total, y, -, -, -, -, -, keeps'⟩ := keeps.enter within planned
  exact ⟨_, _, keeps', confined.apply touches⟩

theorem load (h : Sound format store.entries) {s : DisbursementSection}
    (planned : Disbursement.load format store s = .ok ((), batch)) :
    Sound format (store.entries.apply batch) := by
  obtain ⟨c, t, keeps, confined⟩ := h
  obtain ⟨-, touches, sums, keeps'⟩ := keeps.load planned
  exact ⟨_, sums, keeps', confined.apply touches⟩

end Sound

end Disbursement

end PublicFunds
