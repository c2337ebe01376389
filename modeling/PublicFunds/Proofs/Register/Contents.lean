import PublicFunds.Proofs.Form.ReadBack
import PublicFunds.Proofs.OrderedMap
import PublicFunds.Proofs.Store.Change
import PublicFunds.Proofs.Store.Image
import PublicFunds.Proofs.Store.Region

/-!
# The contents of a register

A register that was only ever written by its own operations holds records under their ids and the
last id that was given out, and every record in it passes its checks.  What it holds is a value of
its own here, so that a question to the store becomes a question to that value, and a batch becomes
a change of it.

The last id may be missing from the store.  It is zero then, and zero may also be written down.  The
contents do not tell the two apart, and no question does.

Reading a record back takes that its bytes are not too many.  So every question is answered for
entries that are short enough.

* `Register.Contents`, `Register.Keeps`: what a register holds.
* `Register.Keeps.find_eq_ok`, `Register.Keeps.last_eq_ok`: an answer that is given is true.
* `Register.Keeps.find`, `Register.Keeps.all`, `Register.Keeps.extract`: the answers in good health.
* `Register.Keeps.entry`, `Register.Keeps.setLast`, `Register.Keeps.aside`: the changes.
-/

namespace PublicFunds

/-- A kind of record whose checks do not concern the id. -/
class VettedApart (ρ : Type) [Record ρ] [Vetted ρ] : Prop where
  checkFields_withId : ∀ (format : AddressFormat) (x : ρ) (id : RecordId),
    Vetted.checkFields format (Record.withId x id) = Vetted.checkFields format x

instance : VettedApart Scorecard := ⟨fun _ _ _ => rfl⟩
instance : VettedApart Budget := ⟨fun _ _ _ => rfl⟩
instance : VettedApart Procurement := ⟨fun _ _ _ => rfl⟩
instance : VettedApart Disbursement := ⟨fun _ _ _ => rfl⟩
instance : VettedApart Delegation := ⟨fun _ _ _ => rfl⟩

/-! ## Batches in one region -/

/-- Everything that a batch writes or deletes is in one region. -/
def Batch.Inside (region : UInt8) (batch : Batch) : Prop := ∀ e ∈ batch, e.key.head? = some region

/-- What is outside of the region of a batch stays. -/
theorem Batch.Inside.get?_apply {region : UInt8} {batch : Batch} (h : batch.Inside region)
    {key : Bytes} (outside : key.head? ≠ some region) (entries : Entries) :
    (entries.apply batch).get? key = entries.get? key :=
  Entries.get?_apply_of_notMem _ fun e he same => outside (by rw [same, h e he])

namespace Register

variable {ρ : Type}

/-! ## What a register touches -/

section Touching

/-- What a batch may touch: records, the last id and one more region. -/
def Touches (r : Register ρ) (region : UInt8) (batch : Batch) : Prop :=
  ∀ e ∈ batch, e.key = [r.counter] ∨ e.key.head? = some r.records ∨ e.key.head? = some region

/-- Nothing else is there. -/
def Confined (r : Register ρ) (region : UInt8) (entries : Entries) : Prop :=
  ∀ key, (entries.get? key).isSome = true →
    key = [r.counter] ∨ key.head? = some r.records ∨ key.head? = some region

variable {r : Register ρ} {region : UInt8}

theorem touches_nil : r.Touches region [] := fun _ he => absurd he List.not_mem_nil

/-- A batch in the other region touches nothing else. -/
theorem Touches.of_inside {batch : Batch} (h : batch.Inside region) : r.Touches region batch :=
  fun e he => .inr (.inr (h e he))

theorem touches_setLast (n : UInt64) : r.Touches region (r.setLast n) := by
  intro e he
  rw [List.mem_singleton.1 he]
  exact .inl rfl

theorem Touches.append {first second : Batch} (h : r.Touches region first)
    (h' : r.Touches region second) : r.Touches region (first ++ second) := by
  intro e he
  rcases List.mem_append.1 he with he | he
  · exact h e he
  · exact h' e he

/-- What a batch does not touch stays. -/
theorem Touches.get?_apply {batch : Batch} (h : r.Touches region batch) {key : Bytes}
    (counter : key ≠ [r.counter]) (records : key.head? ≠ some r.records)
    (other : key.head? ≠ some region) (entries : Entries) :
    (entries.apply batch).get? key = entries.get? key := by
  refine Entries.get?_apply_of_notMem _ fun e he same => ?_
  rcases h e he with here | here | here
  · exact counter (same.trans here)
  · exact records (by rw [same, here])
  · exact other (by rw [same, here])

/-- A region that a batch does not touch stays. -/
theorem Touches.get?_apply_cons {batch : Batch} (h : r.Touches region batch) {elsewhere : UInt8}
    (counter : elsewhere ≠ r.counter) (records : elsewhere ≠ r.records) (other : elsewhere ≠ region)
    (entries : Entries) (rest : Bytes) :
    (entries.apply batch).get? (elsewhere :: rest) = entries.get? (elsewhere :: rest) :=
  h.get?_apply (fun same => counter (List.cons.inj same).1)
    (fun same => records (Option.some.inj same)) (fun same => other (Option.some.inj same)) entries

/-- Nothing else is there after a batch that touches nothing else. -/
theorem Confined.apply {entries : Entries} {batch : Batch} (h : r.Confined region entries)
    (touches : r.Touches region batch) : r.Confined region (entries.apply batch) := by
  induction batch generalizing entries with
  | nil => exact h
  | cons e batch ih =>
    refine ih (fun key found => ?_) fun e' he' => touches e' (List.mem_cons_of_mem _ he')
    by_cases hkey : key = e.key
    · rw [hkey]
      exact touches e (List.mem_cons_self ..)
    · rw [Entries.get?_edit_of_ne _ hkey] at found
      exact h key found

theorem touches_entry [Record ρ] (r : Register ρ) (region : UInt8) (x : ρ) :
    r.Touches region [r.entry x] := by
  intro e he
  rw [List.mem_singleton.1 he]
  exact .inr (.inl rfl)

/-- What is written for a new record. -/
theorem touches_adding [Record ρ] (r : Register ρ) (region : UInt8) (n : UInt64) (x : ρ) :
    r.Touches region (r.setLast n ++ [r.entry x]) :=
  (touches_setLast n).append (r.touches_entry region x)

end Touching

/-! ## What a register holds -/

/-- What a register holds: records under their ids and the last id that was given out. -/
structure Contents (ρ : Type) where
  records : OrderedMap RecordId ρ
  last : RecordId

namespace Contents

/-- The contents of a register that was never used. -/
def empty : Contents ρ := ⟨.empty, 0⟩

/-- The contents with a record put under its id. -/
def put [Record ρ] (c : Contents ρ) (x : ρ) : Contents ρ :=
  { c with records := c.records.insert (Record.id x) x }

/-- Every record stands under its id, which was given out, and passes its checks. -/
def Valid [Record ρ] [Vetted ρ] (format : AddressFormat) (c : Contents ρ) : Prop :=
  ∀ id x, c.records.get? id = some x →
    Record.id x = id ∧ id ≠ 0 ∧ id ≤ c.last ∧ Vetted.checkFields format x = .ok ()

end Contents

variable [Record ρ] [Vetted ρ]

/-- Some entries are what a register with some contents looks like. -/
structure Keeps (r : Register ρ) (format : AddressFormat) (entries : Entries)
    (c : Contents ρ) : Prop where
  held : entries.Holds r.records (Record.form : Form ρ) c.records
  counter : (entries.get? [r.counter]).getD (Layout.count 0) = Layout.count c.last
  valid : c.Valid format

/-- A store without entries is an unused register. -/
theorem keeps_empty (r : Register ρ) (format : AddressFormat) :
    r.Keeps format .empty .empty where
  held := Entries.holds_empty (fun _ => rfl) _
  counter := rfl
  valid _ _ found := nomatch found

omit [Vetted ρ] in
/-- What is known once a record without an id has been given one. -/
theorem add_eq_ok {r : Register ρ} {store : Store} {x y : ρ} {batch : Batch} (new : Record.id x = 0)
    (planned : r.add store x = .ok (y, batch)) :
    ∃ n, r.last store = .ok n ∧ n < n + 1 ∧ y = Record.withId x (n + 1) ∧
      batch = r.setLast (n + 1) ++ [r.entry y] := by
  unfold add at planned
  rw [if_pos new] at planned
  unfold next at planned
  cases hlast : r.last store with
  | error e =>
    rw [hlast] at planned
    cases planned
  | ok n =>
    rw [hlast] at planned
    by_cases room : n.toNat + 1 < UInt64.size
    · simp only [if_pos room] at planned
      cases planned
      have up : n < n + 1 := by
        rw [UInt64.lt_iff_toNat_lt, UInt64.toNat_add]
        have one : (1 : UInt64).toNat = 1 := rfl
        rw [one, Nat.mod_eq_of_lt room]
        exact Nat.lt_succ_self _
      exact ⟨n, rfl, up, rfl, rfl⟩
    · simp only [if_neg room] at planned
      cases planned

omit [Record ρ] [Vetted ρ] in
/-- Going through records to the end shows all of them. -/
theorem visit_map_ok (records seen : List ρ) :
    visit (fun seen record => .yield (record :: seen)) seen (records.map .ok) =
      .ok (records.reverse ++ seen) := by
  induction records generalizing seen with
  | nil => rfl
  | cons x records ih =>
    rw [List.map_cons, visit]
    simp only
    rw [ih, List.reverse_cons, List.append_assoc, List.singleton_append]

omit [Vetted ρ] in
/-- If every record can be read, then these are all records. -/
theorem all_of_each {r : Register ρ} {store : Store} {records : List ρ}
    (h : r.each store = .ok (records.map .ok)) : r.all store = .ok records := by
  unfold all walkList walk
  rw [h]
  simp only [visit_map_ok, Except.map, List.append_nil, List.reverse_reverse]

namespace Keeps

variable {r : Register ρ} {format : AddressFormat} {store : Store} {c : Contents ρ}

/-! ## Questions -/

section Questions

variable [FaithfulRecord ρ]

/-- The stored bytes of a record are read as the record. -/
theorem read_eq (h : r.Keeps format store.entries c) (within : store.entries.Within (Bytes.reach 8))
    {id : RecordId} {x : ρ} (found : c.records.get? id = some x) :
    read (Record.kind ρ) (Record.form : Form ρ) ((Record.form : Form ρ).encode x) = .ok x := by
  have stored : store.entries.get? (Layout.idKey r.records id) =
      some ((Record.form : Form ρ).encode x) := by
    rw [h.held.value, found]
    rfl
  exact read_encode FaithfulRecord.faithful _ (within _ _ stored).2

/-- A record that is found is the one that the register holds. -/
theorem find_eq_ok (h : r.Keeps format store.entries c)
    (within : store.entries.Within (Bytes.reach 8)) {id : RecordId} {result : Option ρ}
    (found : r.find store id = .ok result) : result = c.records.get? id := by
  unfold find at found
  split at found
  · cases found
  · next hfind =>
    cases found
    have absent := (Store.find_eq_ok hfind).symm
    rw [h.held.value, Option.map_eq_none_iff] at absent
    exact absent.symm
  · next bs hfind =>
    obtain ⟨x, hx, rfl⟩ := h.held.get?_eq_some (Store.find_eq_ok hfind).symm
    rw [h.read_eq within hx] at found
    cases found
    exact hx.symm

/-- The record with an id is found. -/
theorem find (h : r.Keeps format store.entries c) (within : store.entries.Within (Bytes.reach 8))
    (healthy : store.Healthy) (id : RecordId) : r.find store id = .ok (c.records.get? id) := by
  unfold Register.find
  rw [healthy.find, h.held.value]
  cases hx : c.records.get? id with
  | none => rfl
  | some x => simp only [Option.map_some, h.read_eq within hx, Except.map]

omit [FaithfulRecord ρ] in
/-- An id that is said to be in use is. -/
theorem contains_eq_ok (h : r.Keeps format store.entries c) {id : RecordId} {b : Bool}
    (found : r.contains store id = .ok b) : b = (c.records.get? id).isSome := by
  unfold contains asking at found
  cases hcontains : store.contains (Layout.idKey r.records id) with
  | error fault =>
    rw [hcontains] at found
    cases found
  | ok b' =>
    rw [hcontains] at found
    cases found
    rw [Store.contains_eq_ok hcontains, OrderedMap.contains, h.held.value, Option.isSome_map]

omit [FaithfulRecord ρ] in
/-- The ids that are in use are those of the records. -/
theorem contains (h : r.Keeps format store.entries c) (healthy : store.Healthy) (id : RecordId) :
    r.contains store id = .ok (c.records.get? id).isSome := by
  unfold Register.contains asking
  rw [healthy.contains, OrderedMap.contains, h.held.value, Option.isSome_map]
  rfl

omit [FaithfulRecord ρ] in
/-- The last id that is said to have been given out was. -/
theorem last_eq_ok (h : r.Keeps format store.entries c) {n : UInt64}
    (found : r.last store = .ok n) : n = c.last := by
  have counter := h.counter
  unfold last at found
  split at found
  · cases found
  · next hfind =>
    cases found
    rw [← Store.find_eq_ok hfind] at counter
    exact Layout.count_inj.1 counter
  · next bs hfind =>
    rw [← Store.find_eq_ok hfind, Option.getD_some] at counter
    rw [counter, Layout.countOf_count] at found
    exact (Except.ok.inj found).symm

omit [FaithfulRecord ρ] in
/-- The last id that was given out. -/
theorem last (h : r.Keeps format store.entries c) (healthy : store.Healthy) :
    r.last store = .ok c.last := by
  have counter := h.counter
  unfold Register.last
  rw [healthy.find]
  cases hbs : store.entries.get? [r.counter] with
  | none =>
    rw [hbs] at counter
    rw [← Layout.count_inj.1 counter]
  | some bs =>
    rw [hbs, Option.getD_some] at counter
    simp only [counter, Layout.countOf_count]

/-- All records can be read, and they come in the order of their ids. -/
theorem each (h : r.Keeps format store.entries c) (within : store.entries.Within (Bytes.reach 8))
    (healthy : store.Healthy) : r.each store = .ok (c.records.values.map .ok) := by
  have read : c.records.toList.map (fun e => Register.read (Record.kind ρ) (Record.form : Form ρ)
      ((Record.form : Form ρ).encode e.2)) = c.records.toList.map fun e => .ok e.2 :=
    List.map_congr_left fun e he => h.read_eq within (c.records.get?_eq_some_iff.2 he)
  unfold Register.each asking
  rw [healthy.scan, h.held.startingWith, OrderedMap.values, List.map_map]
  show Except.ok (List.map _ (List.map _ _)) = _
  rw [List.map_map]
  exact congrArg Except.ok read

/-- All records in the order of their ids. -/
theorem all (h : r.Keeps format store.entries c) (within : store.entries.Within (Bytes.reach 8))
    (healthy : store.Healthy) : r.all store = .ok c.records.values :=
  all_of_each (h.each within healthy)

/-- Everything that the register holds. -/
theorem extract (h : r.Keeps format store.entries c)
    (within : store.entries.Within (Bytes.reach 8)) (healthy : store.Healthy) :
    r.extract store = .ok ⟨c.records.values, c.last⟩ := by
  unfold Register.extract
  rw [h.all within healthy, h.last healthy]

end Questions

/-- A register that is said to be unused has no records. -/
theorem eq_empty_of_isEmpty (h : r.Keeps format store.entries c)
    (unused : r.isEmpty store = .ok true) : c = .empty := by
  unfold isEmpty at unused
  split at unused
  · cases unused
  · next n hlast =>
    split at unused
    · next hzero =>
      have last : c.last = 0 := (h.last_eq_ok hlast).symm.trans hzero
      have records : c.records = .empty := by
        refine OrderedMap.ext_get? fun id => ?_
        cases hx : c.records.get? id with
        | none => rfl
        | some x =>
          -- an id is not zero, and none above zero was given out
          obtain ⟨-, nonzero, le, -⟩ := h.valid id x hx
          rw [last] at le
          exact absurd (UInt64.le_antisymm le (UInt64.le_iff_toNat_le.2 (Nat.zero_le _))) nonzero
      obtain ⟨records', last'⟩ := c
      cases records
      cases last
      rfl
    · cases unused

/-! ## Changes -/

variable {entries : Entries}

/-- A record that passes its checks is written under an id that was given out. -/
theorem entry (h : r.Keeps format entries c) {x : ρ} (nonzero : Record.id x ≠ 0)
    (given : Record.id x ≤ c.last) (checked : Vetted.checkFields format x = .ok ()) :
    r.Keeps format (Entries.edit entries (r.entry x)) (c.put x) where
  held := h.held.insert _ _
  counter := by
    have other : [r.counter] ≠ (r.entry x).key :=
      (Layout.idKey_ne_counter r.records r.counter (Record.id x)).symm
    rw [Entries.get?_edit_of_ne _ other]
    exact h.counter
  valid := OrderedMap.forall_get?_insert h.valid ⟨rfl, nonzero, given, checked⟩

/-- The last id goes up. -/
theorem setLast (h : r.Keeps format entries c) (apart : r.records ≠ r.counter) {n : UInt64}
    (up : c.last ≤ n) :
    r.Keeps format (Entries.apply entries (r.setLast n)) { c with last := n } where
  held := h.held.congr fun rest =>
    Entries.get?_edit_of_ne entries (e := .put _ _) fun same => apart (List.cons.inj same).1
  counter := by
    show ((OrderedMap.insert entries _ _).get? _).getD _ = _
    rw [OrderedMap.get?_insert_self]
    rfl
  valid id x found := by
    obtain ⟨own, nonzero, given, checked⟩ := h.valid id x found
    exact ⟨own, nonzero, UInt64.le_trans given up, checked⟩

/-- No record stands under an id that was not given out. -/
theorem get?_eq_none (h : r.Keeps format entries c) {id : RecordId} (above : c.last < id) :
    c.records.get? id = none := by
  cases hx : c.records.get? id with
  | none => rfl
  | some x => exact absurd (h.valid id x hx).2.2.1 (UInt64.not_le.2 above)

/-- **A new record** is written under the next id, which no record has. -/
theorem add [VettedApart ρ] (h : r.Keeps format store.entries c) (apart : r.records ≠ r.counter)
    {x y : ρ} {batch : Batch} (new : Record.id x = 0)
    (checked : Vetted.checkFields format x = .ok ()) (planned : r.add store x = .ok (y, batch)) :
    c.last < c.last + 1 ∧ y = Record.withId x (c.last + 1) ∧
      batch = r.setLast (c.last + 1) ++ [r.entry y] ∧
      r.Keeps format (Entries.apply store.entries batch)
        (Contents.put { c with last := c.last + 1 } y) := by
  obtain ⟨n, hlast, up, rfl, rfl⟩ := add_eq_ok new planned
  obtain rfl := h.last_eq_ok hlast
  refine ⟨up, rfl, rfl, ?_⟩
  rw [Entries.apply_append]
  have raised := h.setLast apart (UInt64.le_of_lt up)
  refine raised.entry ?_ ?_ ?_
  · rw [Record.id_withId]
    rintro zero
    rw [zero] at up
    exact absurd up (by simp)
  · rw [Record.id_withId]
    exact UInt64.le_refl _
  · rw [VettedApart.checkFields_withId]
    exact checked

/-- What is done in another region leaves a register alone. -/
theorem elsewhere (h : r.Keeps format entries c) {other : Entries}
    (records : ∀ rest, other.get? (r.records :: rest) = entries.get? (r.records :: rest))
    (counter : other.get? [r.counter] = entries.get? [r.counter]) :
    r.Keeps format other c where
  held := h.held.congr records
  counter := by
    rw [counter]
    exact h.counter
  valid := h.valid

/-- A batch in another region leaves a register alone. -/
theorem aside (h : r.Keeps format entries c) {region : UInt8} {batch : Batch}
    (inside : batch.Inside region) (apart : r.records ≠ region) (counter : r.counter ≠ region) :
    r.Keeps format (entries.apply batch) c := by
  have other : ∀ {byte : UInt8}, byte ≠ region → ∀ rest,
      (entries.apply batch).get? (byte :: rest) = entries.get? (byte :: rest) := by
    intro byte differ rest
    refine inside.get?_apply ?_ entries
    exact fun same => differ (Option.some.inj same)
  exact h.elsewhere (other apart) (other counter [])

end Keeps

end Register

end PublicFunds
