import PublicFunds.Proofs.Register.Loading

/-!
# Contents as lists

The records of a register are listed in the order of their ids.  A change of the contents is a
change of this list in one place: a record that is new is inserted there, and one that is known is
replaced.  For sums it matters where, for everything else only which records are listed.

* `find?_eq_some_iff_of_nodup`, `find?_perm`: searching a list by a key.
* `Register.Contents.values_put_of_none`, `Register.Contents.values_put_of_some`: the place.
* `Register.Contents.Own.nodup_ids`: no two of them have one id.
* `Register.Contents.Own.mem_values_put`: which records are listed.
-/

namespace PublicFunds

/-- A search by a key that no two values have finds the value that has it. -/
theorem find?_eq_some_iff_of_nodup {α κ : Type} [DecidableEq κ] {key : α → κ} {l : List α}
    (distinct : (l.map key).Nodup) {k : κ} {x : α} :
    (l.find? fun y => key y = k) = some x ↔ x ∈ l ∧ key x = k := by
  induction l with
  | nil => simp
  | cons y l ih =>
    rw [List.map_cons, List.nodup_cons] at distinct
    rw [List.mem_cons]
    by_cases here : key y = k
    · rw [List.find?_cons_of_pos (by simpa using here), Option.some.injEq]
      constructor
      · rintro rfl
        exact ⟨.inl rfl, here⟩
      · rintro ⟨rfl | later, same⟩
        · rfl
        · exact absurd (List.mem_map.2 ⟨x, later, same.trans here.symm⟩) distinct.1
    · rw [List.find?_cons_of_neg (by simpa using here), ih distinct.2]
      constructor
      · exact fun ⟨later, same⟩ => ⟨.inr later, same⟩
      · rintro ⟨rfl | later, same⟩
        · exact absurd same here
        · exact ⟨later, same⟩

/-- Such a search does not depend on the order of the values. -/
theorem find?_perm {α κ : Type} [DecidableEq κ] {key : α → κ} {l m : List α} (same : l.Perm m)
    (distinct : (l.map key).Nodup) (k : κ) :
    (l.find? fun y => key y = k) = m.find? fun y => key y = k := by
  refine Option.ext fun x => ?_
  rw [find?_eq_some_iff_of_nodup distinct,
    find?_eq_some_iff_of_nodup ((same.map key).nodup_iff.1 distinct), same.mem_iff]

namespace Register.Contents

variable {ρ : Type} [Record ρ] {c : Contents ρ}

/-! ## Places -/

/-- A record with a new id stands somewhere among the others. -/
theorem values_put_of_none {y : ρ} (h : c.records.get? (Record.id y) = none) :
    ∃ front back, c.records.values = front ++ back ∧
      (c.put y).records.values = front ++ y :: back := by
  obtain ⟨front, back, before, after⟩ := OrderedMap.toList_insert_of_none h y
  refine ⟨front.map (·.2), back.map (·.2), ?_, ?_⟩
  · rw [OrderedMap.values, before, List.map_append]
  · rw [OrderedMap.values, put, after, List.map_append, List.map_cons]

/-- A record stands in the place of the one with its id. -/
theorem values_put_of_some {x y : ρ} (h : c.records.get? (Record.id y) = some x) :
    ∃ front back, c.records.values = front ++ x :: back ∧
      (c.put y).records.values = front ++ y :: back := by
  obtain ⟨front, back, before, after⟩ := OrderedMap.toList_insert_of_some h y
  refine ⟨front.map (·.2), back.map (·.2), ?_, ?_⟩
  · rw [OrderedMap.values, before, List.map_append, List.map_cons]
  · rw [OrderedMap.values, put, after, List.map_append, List.map_cons]

/-- The records of the contents of a section are those of the section. -/
theorem values_ofSection {s : Section ρ} (ids : s.checkIds = .ok ()) :
    (ofSection s).records.values.Perm s.records := by
  have distinct : ((s.records.map fun x => (Record.id x, x)).map Prod.fst).Nodup := by
    rw [List.map_map]
    exact (Section.checkIds_eq_ok_iff.1 ids).2
  have same := (OrderedMap.toList_ofList distinct).map Prod.snd
  rw [List.map_map] at same
  exact same.trans (.of_eq (List.map_id _))

omit [Record ρ] in
/-- Every value of the contents stands under its id. -/
theorem get?_of_mem_values {x : ρ} (h : x ∈ c.records.values) :
    ∃ id, c.records.get? id = some x := by
  obtain ⟨e, he, rfl⟩ := List.mem_map.1 h
  exact ⟨e.1, c.records.get?_eq_some_iff.2 he⟩

/-! ## Members -/

/-- Records stand under their ids. -/
def Own (c : Contents ρ) : Prop := ∀ id x, c.records.get? id = some x → Record.id x = id

theorem Valid.own [Vetted ρ] {format : AddressFormat} (h : c.Valid format) : c.Own :=
  fun id x found => (h id x found).1

theorem Own.mem_values (own : c.Own) {x : ρ} :
    x ∈ c.records.values ↔ c.records.get? (Record.id x) = some x := by
  constructor
  · intro h
    obtain ⟨id, found⟩ := get?_of_mem_values h
    rwa [own id x found]
  · intro found
    exact List.mem_map.2 ⟨(Record.id x, x), c.records.get?_eq_some_iff.1 found, rfl⟩

theorem Own.mem_of_get? (own : c.Own) {id : RecordId} {x : ρ} (found : c.records.get? id = some x) :
    x ∈ c.records.values ∧ Record.id x = id := by
  have hid := own id x found
  exact ⟨own.mem_values.2 (hid ▸ found), hid⟩

/-- Different records have different ids. -/
theorem Own.nodup_ids (own : c.Own) : (c.records.values.map Record.id).Nodup := by
  have keys : c.records.values.map Record.id = c.records.toList.map Prod.fst := by
    rw [OrderedMap.values, List.map_map]
    exact List.map_congr_left fun e he => own e.1 e.2 (c.records.get?_eq_some_iff.2 he)
  rw [keys]
  exact c.records.nodup_keys

theorem Own.put (own : c.Own) (y : ρ) : (c.put y).Own :=
  OrderedMap.forall_get?_insert own rfl

/-- After a record has been put there, the records are this one and those with other ids. -/
theorem Own.mem_values_put (own : c.Own) {x y : ρ} :
    x ∈ (c.put y).records.values ↔ x = y ∨ x ∈ c.records.values ∧ Record.id x ≠ Record.id y := by
  rw [(own.put y).mem_values, own.mem_values]
  by_cases hid : Record.id x = Record.id y
  · rw [hid, Contents.put, OrderedMap.get?_insert_self]
    simp [eq_comm]
  · rw [Contents.put, OrderedMap.get?_insert_of_ne _ hid]
    have hne : x ≠ y := fun same => hid (congrArg Record.id same)
    simp [hid, hne]

end Register.Contents

end PublicFunds
