import PublicFunds.Form.Basic
import PublicFunds.Proofs.Bytes.Order
import PublicFunds.Proofs.Store.Scan

/-!
# Regions of a store

The entries whose keys start with one byte are a region.  Most regions are a map in disguise: there
is a value for some ids, stored under the key of the id, and nothing else.  Such a region can be
listed in one go, and since the order of its keys is the order of the ids, the list is the map.

* `Entries.mem_region`: the entries of a region.
* `Entries.Holds`: a region is a map from ids to values.
* `Entries.Holds.startingWith`: listing such a region.
-/

namespace PublicFunds

namespace Entries

/-- The entries of a region are those whose key starts with its byte. -/
theorem mem_region {entries : Entries} {region : UInt8} {key value : Bytes} :
    (key, value) ∈ entries.startingWith [region] ↔
      entries.get? key = some value ∧ ∃ rest, key = region :: rest := by
  rw [mem_startingWith]
  exact and_congr_right fun _ => exists_congr fun _ => eq_comm

/-! ## Regions that are maps -/

variable {α : Type}

/-- A region holds the values of a map, each under the key of its id, and nothing else. -/
structure Holds (entries : Entries) (region : UInt8) (form : Form α)
    (m : OrderedMap UInt64 α) : Prop where
  value : ∀ id, entries.get? (Layout.idKey region id) = (m.get? id).map form.encode
  alone : ∀ rest, (entries.get? (region :: rest)).isSome = true →
    ∃ id, region :: rest = Layout.idKey region id

/-- A region without entries holds nothing. -/
theorem holds_empty {entries : Entries} {region : UInt8}
    (none : ∀ rest, entries.get? (region :: rest) = none) (form : Form α) :
    entries.Holds region form .empty where
  value _ := none _
  alone rest h := by
    rw [none] at h
    cases h

namespace Holds

variable {entries : Entries} {region : UInt8} {form : Form α} {m : OrderedMap UInt64 α}

/-- Writing a value under the key of its id. -/
theorem insert (h : entries.Holds region form m) (id : UInt64) (a : α) :
    Entries.Holds (OrderedMap.insert entries (Layout.idKey region id) (form.encode a)) region form
      (m.insert id a) where
  value j := by
    by_cases hj : j = id
    · subst hj
      rw [OrderedMap.get?_insert_self, OrderedMap.get?_insert_self]
      rfl
    · rw [OrderedMap.get?_insert_of_ne _ fun same => hj (Layout.idKey_inj.1 same),
        OrderedMap.get?_insert_of_ne _ hj, h.value]
  alone rest hrest := by
    by_cases hkey : region :: rest = Layout.idKey region id
    · exact ⟨id, hkey⟩
    · rw [OrderedMap.get?_insert_of_ne _ hkey] at hrest
      exact h.alone rest hrest

/-- What is done outside a region leaves it alone. -/
theorem congr (h : entries.Holds region form m) {other : Entries}
    (same : ∀ rest, other.get? (region :: rest) = entries.get? (region :: rest)) :
    other.Holds region form m where
  value id := (same _).trans (h.value id)
  alone rest hrest := h.alone rest (by rwa [same] at hrest)

/-- A region holds one map. -/
theorem get?_eq_some (h : entries.Holds region form m) {id : UInt64} {bs : Bytes}
    (found : entries.get? (Layout.idKey region id) = some bs) :
    ∃ a, m.get? id = some a ∧ bs = form.encode a := by
  rw [h.value, Option.map_eq_some_iff] at found
  obtain ⟨a, ha, hbs⟩ := found
  exact ⟨a, ha, hbs.symm⟩

/-- **Listing a region that is a map.**  The entries come in the order of the ids. -/
theorem startingWith (h : entries.Holds region form m) :
    entries.startingWith [region] =
      m.toList.map fun e => (Layout.idKey region e.1, form.encode e.2) := by
  refine OrderedMap.eq_of_mem_iff (ascending_startingWith entries [region]) ?_ ?_
  · rw [List.pairwise_map]
    refine m.ascending.imp fun {a b} hab => ?_
    rw [Layout.compare_idKey]
    exact hab
  · rintro ⟨key, value⟩
    rw [mem_region, List.mem_map]
    constructor
    · rintro ⟨hkey, rest, rfl⟩
      obtain ⟨id, hid⟩ := h.alone rest (by rw [hkey]; rfl)
      rw [hid] at hkey ⊢
      obtain ⟨a, ha, rfl⟩ := h.get?_eq_some hkey
      exact ⟨(id, a), m.get?_eq_some_iff.1 ha, rfl⟩
    · rintro ⟨⟨id, a⟩, hmem, heq⟩
      obtain ⟨rfl, rfl⟩ := Prod.mk.inj heq
      refine ⟨?_, _, rfl⟩
      rw [h.value, m.get?_eq_some_iff.2 hmem]
      rfl

end Holds

end Entries

end PublicFunds
