/-!
# Maps kept in key order

A finite map as the list of its entries in ascending key order.  Every store, every collection of
totals and every in-memory stand-in for a register is such a map, and all that is ever shown of
them is shown in key order.  Because the order is part of the type, two maps with the same entries
are equal (`OrderedMap.ext_get?`).

* `OrderedMap.insert`, `OrderedMap.erase`: the changes, each with a lemma on `get?`.
* `OrderedMap.ofList`: the map of a list in which the last of several entries of a key counts.
-/

namespace PublicFunds

open Std

/-- A finite map, held as its entries in ascending key order. -/
structure OrderedMap (κ : Type) (β : Type) [Ord κ] where
  /-- The entries. -/
  toList : List (κ × β)
  /-- Every key comes before the keys after it. -/
  ascending : toList.Pairwise fun a b => compare a.1 b.1 = .lt

namespace OrderedMap

variable {κ β : Type} [Ord κ]

instance [DecidableEq κ] [DecidableEq β] : DecidableEq (OrderedMap κ β) := fun m n =>
  if h : m.toList = n.toList then .isTrue (by cases m; cases n; cases h; rfl)
  else .isFalse (fun e => h (congrArg toList e))

/-- The map without entries. -/
def empty : OrderedMap κ β := ⟨[], .nil⟩

instance : Inhabited (OrderedMap κ β) := ⟨empty⟩

/-- The value under a key. -/
def get? (m : OrderedMap κ β) (k : κ) : Option β :=
  (m.toList.find? fun e => compare e.1 k == .eq).map (·.2)

/-- Whether there is a value under a key. -/
def contains (m : OrderedMap κ β) (k : κ) : Bool := (m.get? k).isSome

/-- The keys, ascending. -/
def keys (m : OrderedMap κ β) : List κ := m.toList.map (·.1)

/-- The values in the order of their keys. -/
def values (m : OrderedMap κ β) : List β := m.toList.map (·.2)

/-- The number of entries. -/
def size (m : OrderedMap κ β) : Nat := m.toList.length

/-- Whether there are no entries. -/
def isEmpty (m : OrderedMap κ β) : Bool := m.toList.isEmpty

/-- The entry with the highest key. -/
def last? (m : OrderedMap κ β) : Option (κ × β) := m.toList.getLast?

/-- Puts an entry in its place, instead of the one under the same key if there is one. -/
def insertEntry (k : κ) (v : β) : List (κ × β) → List (κ × β)
  | [] => [(k, v)]
  | e :: rest =>
    match compare k e.1 with
    | .lt => (k, v) :: e :: rest
    | .eq => (k, v) :: rest
    | .gt => e :: insertEntry k v rest

theorem mem_insertEntry {k : κ} {v : β} {a : κ × β} {l : List (κ × β)}
    (h : a ∈ insertEntry k v l) : a = (k, v) ∨ a ∈ l := by
  induction l with
  | nil => simpa [insertEntry] using h
  | cons e rest ih =>
    rw [insertEntry] at h
    split at h
    · simpa using h
    · rcases List.mem_cons.1 h with rfl | h
      · exact .inl rfl
      · exact .inr (List.mem_cons_of_mem _ h)
    · rcases List.mem_cons.1 h with rfl | h
      · exact .inr (List.mem_cons_self ..)
      · exact (ih h).imp_right (List.mem_cons_of_mem _)

theorem ascending_insertEntry [TransOrd κ] [LawfulEqOrd κ] {k : κ} {v : β} {l : List (κ × β)}
    (h : l.Pairwise fun a b => compare a.1 b.1 = .lt) :
    (insertEntry k v l).Pairwise fun a b => compare a.1 b.1 = .lt := by
  induction l with
  | nil => simp [insertEntry]
  | cons e rest ih =>
    obtain ⟨he, hrest⟩ := List.pairwise_cons.1 h
    rw [insertEntry]
    split
    · next hlt =>
      refine List.pairwise_cons.2 ⟨fun a ha => ?_, h⟩
      rcases List.mem_cons.1 ha with rfl | ha
      · exact hlt
      · exact TransCmp.lt_trans hlt (he a ha)
    · next heq =>
      have hk : k = e.1 := LawfulEqCmp.eq_of_compare heq
      subst hk
      exact List.pairwise_cons.2 ⟨he, hrest⟩
    · next hgt =>
      refine List.pairwise_cons.2 ⟨fun a ha => ?_, ih hrest⟩
      rcases mem_insertEntry ha with rfl | ha
      · exact OrientedCmp.lt_of_gt hgt
      · exact he a ha

@[simp] theorem get?_empty (k : κ) : (empty : OrderedMap κ β).get? k = none := rfl

/-- The map with nothing under a key. -/
def erase (m : OrderedMap κ β) (k : κ) : OrderedMap κ β :=
  ⟨m.toList.filter fun e => compare e.1 k != .eq, m.ascending.filter _⟩

section Changes

variable [TransOrd κ] [LawfulEqOrd κ]

/-- The map with a value put under a key. -/
def insert (m : OrderedMap κ β) (k : κ) (v : β) : OrderedMap κ β :=
  ⟨insertEntry k v m.toList, ascending_insertEntry m.ascending⟩

/-- The map of a list of entries, put in one after the other. -/
def ofList (l : List (κ × β)) : OrderedMap κ β :=
  l.foldl (fun m e => m.insert e.1 e.2) empty

end Changes

/-! ## What a change does to the values -/

section Lookup

variable [LawfulEqOrd κ]

/-- Whether an entry is the one looked for is whether its key is the key. -/
theorem compare_beq_eq_iff {k l : κ} : (compare k l == .eq) = true ↔ k = l := by
  rw [beq_iff_eq]
  exact LawfulEqCmp.compare_eq_iff_eq

theorem compare_self (k : κ) : compare k k = .eq := beq_iff_eq.1 (compare_beq_eq_iff.2 rfl)

theorem compare_beq_eq_false {k l : κ} (h : k ≠ l) : (compare k l == .eq) = false := by
  rw [Bool.eq_false_iff]
  exact fun h' => h (compare_beq_eq_iff.1 h')

theorem find?_insertEntry_self [OrientedOrd κ] (k : κ) (v : β) (l : List (κ × β)) :
    (insertEntry k v l).find? (fun e => compare e.1 k == .eq) = some (k, v) := by
  induction l with
  | nil => simp [insertEntry]
  | cons e rest ih =>
    rw [insertEntry]
    split
    · simp
    · simp
    · next hgt =>
      have hne : (compare e.1 k == .eq) = false := by
        rw [OrientedCmp.lt_of_gt hgt]; rfl
      rw [List.find?_cons, hne]
      exact ih

theorem find?_insertEntry_of_ne {k k' : κ} (hk : k' ≠ k) (v : β) (l : List (κ × β)) :
    (insertEntry k v l).find? (fun e => compare e.1 k' == .eq) =
      l.find? (fun e => compare e.1 k' == .eq) := by
  have hne := compare_beq_eq_false hk.symm
  induction l with
  | nil => simp [insertEntry, hne]
  | cons e rest ih =>
    rw [insertEntry]
    split
    · rw [List.find?_cons, hne]
    · next heq =>
      have he : k = e.1 := LawfulEqCmp.eq_of_compare heq
      rw [List.find?_cons, List.find?_cons, ← he, hne]
    · rw [List.find?_cons, List.find?_cons, ih]

theorem find?_filter_of_ne {k k' : κ} (hk : k' ≠ k) (l : List (κ × β)) :
    (l.filter fun e => compare e.1 k != .eq).find? (fun e => compare e.1 k' == .eq) =
      l.find? (fun e => compare e.1 k' == .eq) := by
  induction l with
  | nil => rfl
  | cons e rest ih =>
    rw [List.filter_cons, List.find?_cons]
    by_cases he : e.1 = k'
    · have hne : (compare e.1 k != .eq) = true := by
        rw [bne, compare_beq_eq_false (he ▸ hk)]; rfl
      simp [hne, compare_beq_eq_iff.2 he]
    · rw [compare_beq_eq_false he]
      split
      · rw [List.find?_cons, compare_beq_eq_false he, ih]
      · exact ih

/-- In an ascending list, the entry found under a key is the only one with it. -/
theorem find?_eq_some_iff_mem [OrientedOrd κ] {l : List (κ × β)}
    (hl : l.Pairwise fun a b => compare a.1 b.1 = .lt) {k : κ} {v : β} :
    (l.find? fun e => compare e.1 k == .eq) = some (k, v) ↔ (k, v) ∈ l := by
  induction l with
  | nil => simp
  | cons e rest ih =>
    obtain ⟨he, hrest⟩ := List.pairwise_cons.1 hl
    rw [List.find?_cons, List.mem_cons]
    by_cases hk : e.1 = k
    · rw [compare_beq_eq_iff.2 hk]
      simp only [Option.some.injEq]
      refine ⟨fun h => .inl h.symm, fun h => ?_⟩
      rcases h with h | h
      · exact h.symm
      · have hlt := he _ h
        rw [hk, compare_self] at hlt
        contradiction
    · rw [compare_beq_eq_false hk]
      simp only
      rw [ih hrest]
      exact ⟨.inr, fun h => h.resolve_left fun h' => hk (h' ▸ rfl)⟩

end Lookup

@[simp] theorem get?_erase_self (m : OrderedMap κ β) (k : κ) : (m.erase k).get? k = none := by
  simp [get?, erase]

theorem get?_erase_of_ne [LawfulEqOrd κ] (m : OrderedMap κ β) {k k' : κ} (h : k' ≠ k) :
    (m.erase k).get? k' = m.get? k' := by
  simp [get?, erase, find?_filter_of_ne h]

section Values

variable [TransOrd κ] [LawfulEqOrd κ]

@[simp] theorem get?_insert_self (m : OrderedMap κ β) (k : κ) (v : β) :
    (m.insert k v).get? k = some v := by
  simp [get?, insert, find?_insertEntry_self]

theorem get?_insert_of_ne (m : OrderedMap κ β) {k k' : κ} (h : k' ≠ k) (v : β) :
    (m.insert k v).get? k' = m.get? k' := by
  simp [get?, insert, find?_insertEntry_of_ne h]

/-- A key leads to a value exactly if the two are an entry. -/
theorem get?_eq_some_iff (m : OrderedMap κ β) {k : κ} {v : β} :
    m.get? k = some v ↔ (k, v) ∈ m.toList := by
  rw [← find?_eq_some_iff_mem m.ascending, get?, Option.map_eq_some_iff]
  constructor
  · rintro ⟨⟨l, w⟩, h, rfl⟩
    have hk := List.find?_some h
    simp only at hk
    rw [compare_beq_eq_iff] at hk
    rw [h, hk]
  · exact fun h => ⟨_, h, rfl⟩

/-- Ascending lists with the same entries are equal. -/
theorem eq_of_mem_iff {l r : List (κ × β)}
    (hl : l.Pairwise fun a b => compare a.1 b.1 = .lt)
    (hr : r.Pairwise fun a b => compare a.1 b.1 = .lt) (h : ∀ e, e ∈ l ↔ e ∈ r) : l = r := by
  induction l generalizing r with
  | nil =>
    cases r with
    | nil => rfl
    | cons b r => exact absurd ((h b).2 (List.mem_cons_self ..)) List.not_mem_nil
  | cons a l ih =>
    cases r with
    | nil => exact absurd ((h a).1 (List.mem_cons_self ..)) List.not_mem_nil
    | cons b r =>
      obtain ⟨ha, hl'⟩ := List.pairwise_cons.1 hl
      obtain ⟨hb, hr'⟩ := List.pairwise_cons.1 hr
      have irrefl : ∀ e : κ × β, compare e.1 e.1 ≠ .lt := fun e h' => by
        rw [compare_self] at h'
        contradiction
      have hab : a = b := by
        rcases List.mem_cons.1 ((h a).1 (List.mem_cons_self ..)) with h' | h'
        · exact h'
        · rcases List.mem_cons.1 ((h b).2 (List.mem_cons_self ..)) with h'' | h''
          · exact h''.symm
          · exact absurd (TransCmp.lt_trans (hb a h') (ha b h'')) (irrefl b)
      subst hab
      congr 1
      refine ih hl' hr' fun e => ⟨fun he => ?_, fun he => ?_⟩
      · refine (List.mem_cons.1 ((h e).1 (List.mem_cons_of_mem _ he))).resolve_left ?_
        rintro rfl
        exact irrefl e (ha e he)
      · refine (List.mem_cons.1 ((h e).2 (List.mem_cons_of_mem _ he))).resolve_left ?_
        rintro rfl
        exact irrefl e (hb e he)

/-- Maps with the same values under all keys are equal. -/
theorem ext_get? {m n : OrderedMap κ β} (h : ∀ k, m.get? k = n.get? k) : m = n := by
  have hlist : m.toList = n.toList := eq_of_mem_iff m.ascending n.ascending fun e => by
    rw [← get?_eq_some_iff, ← get?_eq_some_iff, h]
  cases m; cases n; cases hlist; rfl

end Values

end OrderedMap

end PublicFunds
