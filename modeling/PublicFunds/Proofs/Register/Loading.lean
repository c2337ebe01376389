import PublicFunds.Proofs.Key
import PublicFunds.Proofs.Lifecycle.Change
import PublicFunds.Proofs.OrderedMap
import PublicFunds.Proofs.Register.Index

/-!
# A section becomes the contents

An unused register that a section is loaded into holds exactly the records of the section.  And a
register that is taken out as a section and loaded elsewhere holds there what it held here, since
the records of a section stand in the order of their ids.

The index is not part of a section.  It is built again from the pairs of the records, which have to
be different not only as pairs but as bytes.  They are if they are short (`PairKey.eq_of_bytes_eq`).

* `Register.Contents.ofSection`: the contents that a section describes.
* `Register.Keeps.loading`, `Register.Indexes.indexing`: what loading writes.
-/

namespace PublicFunds

/-! ## Writing one value after the other -/

/-- Values that are written one after the other are put into the map one after the other. -/
theorem Entries.Holds.apply_puts {α : Type} {entries : Entries} {region : UInt8} {form : Form α}
    {m : OrderedMap UInt64 α} (h : entries.Holds region form m) (l : List (UInt64 × α)) :
    Entries.Holds (Entries.apply entries
      (l.map fun e => .put (Layout.idKey region e.1) (form.encode e.2))) region form
      (l.foldl (fun m e => m.insert e.1 e.2) m) := by
  induction l generalizing entries m with
  | nil => exact h
  | cons e l ih => exact ih (h.insert e.1 e.2)

namespace Register

variable {ρ : Type} [Record ρ]

namespace Contents

/-- The contents that a section describes. -/
def ofSection (s : Section ρ) : Contents ρ :=
  ⟨.ofList (s.records.map fun x => (Record.id x, x)), s.count⟩

/-- A record of the contents of a section is one of the section, under its id. -/
theorem get?_ofSection {s : Section ρ} (ids : s.checkIds = .ok ()) {id : RecordId} {x : ρ} :
    (ofSection s).records.get? id = some x ↔ x ∈ s.records ∧ Record.id x = id := by
  have distinct : ((s.records.map fun x => (Record.id x, x)).map Prod.fst).Nodup := by
    rw [List.map_map]
    exact (Section.checkIds_eq_ok_iff.1 ids).2
  rw [ofSection, OrderedMap.get?_ofList distinct, List.mem_map]
  constructor
  · rintro ⟨y, hy, same⟩
    obtain ⟨hid, rfl⟩ := Prod.mk.inj same
    exact ⟨hy, hid⟩
  · rintro ⟨hx, rfl⟩
    exact ⟨x, hx, rfl⟩

variable [Vetted ρ]

theorem valid_ofSection {format : AddressFormat} {s : Section ρ} (ids : s.checkIds = .ok ())
    (records : Vetted.checkAll format s.records = .ok ()) : (ofSection s).Valid format := by
  intro id x found
  obtain ⟨hx, rfl⟩ := (get?_ofSection ids).1 found
  obtain ⟨nonzero, given⟩ := (Section.checkIds_eq_ok_iff.1 ids).1 x hx
  exact ⟨rfl, nonzero, given, (Vetted.of_check (Vetted.checkAll_eq_ok_iff.1 records x hx)).2⟩

/-- Contents that are taken out as a section are the contents that the section describes. -/
theorem ofSection_values {format : AddressFormat} {c : Contents ρ} (h : c.Valid format) :
    ofSection ⟨c.records.values, c.last⟩ = c := by
  have entries : (c.records.values.map fun x => (Record.id x, x)) = c.records.toList := by
    rw [OrderedMap.values, List.map_map]
    refine (List.map_congr_left fun e he => ?_).trans (List.map_id _)
    have own := (h e.1 e.2 (c.records.get?_eq_some_iff.2 he)).1
    exact Prod.ext own rfl
  rw [ofSection, entries, OrderedMap.ofList_toList]

end Contents

/-- The last id that a section leaves is the one that is written last. -/
theorem Keeps.loading [Vetted ρ] {r : Register ρ} {format : AddressFormat} {entries : Entries}
    (h : r.Keeps format entries .empty) (apart : r.records ≠ r.counter) {s : Section ρ}
    (ids : s.checkIds = .ok ()) (records : Vetted.checkAll format s.records = .ok ()) :
    r.Keeps format (Entries.apply entries (r.loading s)) (.ofSection s) where
  held := by
    have written := h.held.apply_puts (s.records.map fun x => (Record.id x, x))
    rw [List.map_map] at written
    rw [Register.loading, Entries.apply_append]
    refine written.congr fun rest => ?_
    exact Entries.get?_edit_of_ne _ (e := .put _ _) fun same => apart (List.cons.inj same).1
  counter := by
    rw [Register.loading, Entries.apply_append]
    show ((OrderedMap.insert _ _ _).get? _).getD _ = _
    rw [OrderedMap.get?_insert_self]
    rfl
  valid := Contents.valid_ofSection ids records

variable [Paired ρ]

/-- The index entries of some records as keys and values. -/
theorem apply_indexing (entries : Entries) (region : UInt8) (records : List ρ) :
    Entries.apply entries (indexing region records) =
      (records.map fun x =>
        (Layout.pairKey region (Paired.pair x), Layout.count (Record.id x))).foldl
        (fun m e => OrderedMap.insert m e.1 e.2) entries := by
  rw [indexing, Entries.apply, List.foldl_map, List.foldl_map]
  rfl

/-- The pairs of some records are not too long if the entries of their index are not. -/
theorem pairs_short {region : UInt8} {entries : Entries} {records : List ρ}
    (within : Entries.Within (Bytes.reach 4) (Entries.apply entries (indexing region records))) :
    ∀ x ∈ records, (Paired.pair x).Short := by
  intro x hx
  rw [apply_indexing] at within
  have written : Layout.pairKey region (Paired.pair x) ∈ (records.map fun x =>
      (Layout.pairKey region (Paired.pair x), Layout.count (Record.id x))).map Prod.fst := by
    rw [List.map_map]
    exact List.mem_map.2 ⟨x, hx, rfl⟩
  have there := OrderedMap.isSome_get?_foldl_insert entries (.inr written)
  obtain ⟨value, found⟩ := Option.isSome_iff_exists.1 there
  exact PairKey.short_of_length (within _ _ found).1

/-- **The index that is built again.**  Different pairs are stored apart, as long as they are not
too long. -/
theorem Indexes.indexing {region : UInt8} {entries : Entries} {s : Section ρ}
    (none : ∀ bs, entries.get? (region :: bs) = none) (ids : s.checkIds = .ok ())
    (pairs : s.checkPairs = .ok ())
    (short : ∀ x ∈ s.records, (Paired.pair x).Short) :
    Indexes region (Entries.apply entries (indexing region s.records))
      (Contents.ofSection s).records := by
  rw [apply_indexing]
  have distinct : ((s.records.map fun x =>
      (Layout.pairKey region (Paired.pair x), Layout.count (Record.id x))).map Prod.fst).Nodup := by
    rw [List.map_map]
    have apart := Section.checkPairs_eq_ok_iff.1 pairs
    rw [List.Nodup, List.pairwise_map] at apart ⊢
    refine apart.imp_of_mem fun {x y} hx hy hxy same => hxy ?_
    exact PairKey.eq_of_bytes_eq (short x hx) (short y hy) (List.cons.inj same).2
  intro bs value
  rw [OrderedMap.get?_foldl_insert distinct, none, List.mem_map]
  constructor
  · rintro (⟨x, hx, same⟩ | ⟨-, impossible⟩)
    · obtain ⟨hbs, hvalue⟩ := Prod.mk.inj same
      exact ⟨Record.id x, x, (Contents.get?_ofSection ids).2 ⟨hx, rfl⟩, (List.cons.inj hbs).2,
        hvalue.symm⟩
    · cases impossible
  · rintro ⟨id, x, found, rfl, rfl⟩
    obtain ⟨hx, rfl⟩ := (Contents.get?_ofSection ids).1 found
    exact .inl ⟨x, hx, rfl⟩

end Register

end PublicFunds
