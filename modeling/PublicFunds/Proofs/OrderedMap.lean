import PublicFunds.OrderedMap

/-!
# Maps that are built up

A map is built by putting in one entry after the other.  If the keys are different, what comes out
does not depend on the order: an entry of the map is an entry that was put in.

A single entry that is put in stands somewhere in the list of entries, and the entries around it are
those that were there before.  This is what it takes to follow a sum over the values of a map.

* `OrderedMap.forall_get?_insert`: what is kept when an entry is put in.
* `OrderedMap.get?_foldl_insert`, `OrderedMap.get?_ofList`: the entries of a map that was built up.
* `OrderedMap.mem_keys_iff`: the keys under which something stands.
* `OrderedMap.ofList_toList`: a map is built up from its own entries.
* `OrderedMap.IsLast`, `OrderedMap.get?_ofList_eq_some_iff`: the last entry of a key counts.
* `OrderedMap.toList_insert_of_none`, `OrderedMap.toList_insert_of_some`: where an entry is put.
* `OrderedMap.toList_ofList`: the entries of a map that was built up, in whatever order.
-/

namespace PublicFunds

namespace OrderedMap

variable {κ β : Type} [Ord κ] [Std.TransOrd κ] [Std.LawfulEqOrd κ]

/-- What holds of every entry holds of every entry after one has been put in that it holds of. -/
theorem forall_get?_insert {P : κ → β → Prop} {m : OrderedMap κ β}
    (all : ∀ k v, m.get? k = some v → P k v) {k : κ} {v : β} (new : P k v) :
    ∀ j w, (m.insert k v).get? j = some w → P j w := by
  intro j w found
  by_cases here : j = k
  · rw [here, get?_insert_self] at found
    cases found
    rwa [here]
  · rw [get?_insert_of_ne _ here] at found
    exact all j w found

/-- The entries after others with different keys have been put in: those, and the ones before that
have a key of their own. -/
theorem get?_foldl_insert {l : List (κ × β)} (distinct : (l.map Prod.fst).Nodup)
    (m : OrderedMap κ β) {k : κ} {v : β} :
    (l.foldl (fun m e => m.insert e.1 e.2) m).get? k = some v ↔
      (k, v) ∈ l ∨ (k ∉ l.map Prod.fst ∧ m.get? k = some v) := by
  induction l generalizing m with
  | nil => simp
  | cons e l ih =>
    obtain ⟨j, w⟩ := e
    rw [List.map_cons, List.nodup_cons] at distinct
    obtain ⟨new, distinct⟩ := distinct
    rw [List.foldl_cons, ih distinct, List.map_cons, List.mem_cons, List.mem_cons]
    by_cases hk : k = j
    · subst hk
      rw [get?_insert_self]
      constructor
      · rintro (later | ⟨-, here⟩)
        · exact absurd (List.mem_map_of_mem later) new
        · cases here
          exact .inl (.inl rfl)
      · rintro ((here | later) | ⟨unseen, -⟩)
        · rw [(Prod.mk.inj here).2]
          exact .inr ⟨new, rfl⟩
        · exact .inl later
        · exact absurd (.inl rfl) unseen
    · rw [get?_insert_of_ne _ hk]
      constructor
      · rintro (later | ⟨unseen, before⟩)
        · exact .inl (.inr later)
        · refine .inr ⟨fun seen => ?_, before⟩
          exact seen.elim hk unseen
      · rintro ((here | later) | ⟨unseen, before⟩)
        · exact absurd (Prod.mk.inj here).1 hk
        · exact .inl later
        · exact .inr ⟨fun seen => unseen (.inr seen), before⟩

/-- The entries of a map that was built up from a list with different keys. -/
theorem get?_ofList {l : List (κ × β)} (distinct : (l.map Prod.fst).Nodup) {k : κ} {v : β} :
    (ofList l).get? k = some v ↔ (k, v) ∈ l := by
  rw [ofList, get?_foldl_insert distinct]
  simp

omit [Std.TransOrd κ] in
/-- The keys of a map are different. -/
theorem nodup_keys (m : OrderedMap κ β) : (m.toList.map Prod.fst).Nodup := by
  rw [List.Nodup, List.pairwise_map]
  refine m.ascending.imp fun {a b} hab same => ?_
  rw [same, compare_self] at hab
  cases hab

/-- Something stands exactly under the keys of a map. -/
theorem mem_keys_iff (m : OrderedMap κ β) {k : κ} : k ∈ m.keys ↔ ∃ v, m.get? k = some v := by
  rw [keys, List.mem_map]
  constructor
  · rintro ⟨e, he, rfl⟩
    exact ⟨e.2, m.get?_eq_some_iff.2 he⟩
  · rintro ⟨v, found⟩
    exact ⟨(k, v), m.get?_eq_some_iff.1 found, rfl⟩

/-- Nothing stands under a key that is none of the map's. -/
theorem get?_eq_none_iff (m : OrderedMap κ β) {k : κ} : m.get? k = none ↔ k ∉ m.keys := by
  rw [mem_keys_iff, not_exists, Option.eq_none_iff_forall_ne_some]

/-- A map is built up from its own entries. -/
theorem ofList_toList (m : OrderedMap κ β) : ofList m.toList = m := by
  refine ext_get? fun k => Option.ext fun v => ?_
  rw [get?_ofList m.nodup_keys, get?_eq_some_iff]

/-- Something stands under every key that was put in. -/
theorem isSome_get?_foldl_insert {l : List (κ × β)} (m : OrderedMap κ β) {k : κ}
    (h : (m.get? k).isSome = true ∨ k ∈ l.map Prod.fst) :
    ((l.foldl (fun m e => m.insert e.1 e.2) m).get? k).isSome = true := by
  induction l generalizing m with
  | nil =>
    rcases h with h | h
    · exact h
    · exact absurd h List.not_mem_nil
  | cons e l ih =>
    rw [List.foldl_cons]
    refine ih _ ?_
    by_cases hk : k = e.1
    · rw [hk, get?_insert_self]
      exact .inl rfl
    · rw [get?_insert_of_ne _ hk]
      rw [List.map_cons, List.mem_cons] at h
      rcases h with h | h | h
      · exact .inl h
      · exact absurd h hk
      · exact .inr h

/-! ## Keys that come up more than once -/

/-- A value is the last one that is listed for a key. -/
def IsLast (l : List (κ × β)) (k : κ) (v : β) : Prop :=
  ∃ front back, l = front ++ (k, v) :: back ∧ ∀ e ∈ back, e.1 ≠ k

omit [Ord κ] [Std.TransOrd κ] [Std.LawfulEqOrd κ] in
theorem isLast_cons {e : κ × β} {l : List (κ × β)} {k : κ} {v : β} :
    IsLast (e :: l) k v ↔ IsLast l k v ∨ (e = (k, v) ∧ ∀ f ∈ l, f.1 ≠ k) := by
  constructor
  · rintro ⟨front, back, split, later⟩
    cases front with
    | nil =>
      obtain ⟨rfl, rfl⟩ := List.cons.inj split
      exact .inr ⟨rfl, later⟩
    | cons f front =>
      obtain ⟨rfl, rfl⟩ := List.cons.inj split
      exact .inl ⟨front, back, rfl, later⟩
  · rintro (⟨front, back, rfl, later⟩ | ⟨rfl, later⟩)
    · exact ⟨e :: front, back, rfl, later⟩
    · exact ⟨[], l, rfl, later⟩

/-- What is found after entries have been put in one after the other is the last one of a key, or
what was there before. -/
theorem get?_foldl_insert_eq_some_iff (l : List (κ × β)) (m : OrderedMap κ β) {k : κ} {v : β} :
    (l.foldl (fun m e => m.insert e.1 e.2) m).get? k = some v ↔
      IsLast l k v ∨ ((∀ e ∈ l, e.1 ≠ k) ∧ m.get? k = some v) := by
  induction l generalizing m with
  | nil => simp [IsLast]
  | cons e l ih =>
    rw [List.foldl_cons, ih, isLast_cons, List.forall_mem_cons]
    by_cases here : e.1 = k
    · subst here
      rw [get?_insert_self, Option.some.injEq]
      constructor
      · rintro (last | ⟨later, rfl⟩)
        · exact .inl (.inl last)
        · exact .inl (.inr ⟨rfl, later⟩)
      · rintro ((last | ⟨same, later⟩) | ⟨⟨other, -⟩, -⟩)
        · exact .inl last
        · exact .inr ⟨later, congrArg Prod.snd same⟩
        · exact absurd rfl other
    · rw [get?_insert_of_ne _ (Ne.symm here)]
      constructor
      · rintro (last | ⟨later, before⟩)
        · exact .inl (.inl last)
        · exact .inr ⟨⟨here, later⟩, before⟩
      · rintro ((last | ⟨same, -⟩) | ⟨⟨-, later⟩, before⟩)
        · exact .inl last
        · exact absurd (congrArg Prod.fst same) here
        · exact .inr ⟨later, before⟩

/-- **The last entry of a key counts.** -/
theorem get?_ofList_eq_some_iff (l : List (κ × β)) {k : κ} {v : β} :
    (ofList l).get? k = some v ↔ IsLast l k v := by
  rw [ofList, get?_foldl_insert_eq_some_iff]
  simp

/-! ## Where an entry is put -/

omit [Std.TransOrd κ] in
/-- An entry with a new key is put somewhere between the others. -/
theorem exists_insertEntry_of_ne {k : κ} {l : List (κ × β)} (new : ∀ e ∈ l, e.1 ≠ k) (v : β) :
    ∃ front back, l = front ++ back ∧ insertEntry k v l = front ++ (k, v) :: back := by
  induction l with
  | nil => exact ⟨[], [], rfl, rfl⟩
  | cons e l ih =>
    rw [insertEntry]
    split
    · exact ⟨[], e :: l, rfl, rfl⟩
    · next heq =>
      exact absurd (Std.LawfulEqCmp.eq_of_compare heq).symm (new e (List.mem_cons_self ..))
    · obtain ⟨front, back, split, put⟩ := ih fun e he => new e (List.mem_cons_of_mem _ he)
      exact ⟨e :: front, back, by rw [split]; rfl, by rw [put]; rfl⟩

/-- An entry is put in the place of the one with its key. -/
theorem exists_insertEntry_of_mem {k : κ} {w : β} {l : List (κ × β)}
    (ascending : l.Pairwise fun a b => compare a.1 b.1 = .lt) (h : (k, w) ∈ l) (v : β) :
    ∃ front back, l = front ++ (k, w) :: back ∧ insertEntry k v l = front ++ (k, v) :: back := by
  induction l with
  | nil => exact absurd h List.not_mem_nil
  | cons e l ih =>
    obtain ⟨first, rest⟩ := List.pairwise_cons.1 ascending
    rw [insertEntry]
    rcases List.mem_cons.1 h with rfl | h
    · rw [compare_self]
      exact ⟨[], l, rfl, rfl⟩
    · have before : compare k e.1 = .gt := Std.OrientedCmp.gt_of_lt (first _ h)
      rw [before]
      obtain ⟨front, back, split, put⟩ := ih rest h
      exact ⟨e :: front, back, by rw [split]; rfl, by simp only [put]; rfl⟩

theorem toList_insert_of_none {m : OrderedMap κ β} {k : κ} (h : m.get? k = none) (v : β) :
    ∃ front back, m.toList = front ++ back ∧ (m.insert k v).toList = front ++ (k, v) :: back := by
  refine exists_insertEntry_of_ne (fun e he same => ?_) v
  have found := m.get?_eq_some_iff.2 (show (k, e.2) ∈ m.toList from same ▸ he)
  rw [h] at found
  cases found

theorem toList_insert_of_some {m : OrderedMap κ β} {k : κ} {w : β} (h : m.get? k = some w) (v : β) :
    ∃ front back, m.toList = front ++ (k, w) :: back ∧
      (m.insert k v).toList = front ++ (k, v) :: back :=
  exists_insertEntry_of_mem m.ascending (m.get?_eq_some_iff.1 h) v

/-- Entries with new and different keys are added to those that are there. -/
theorem toList_foldl_insert {l : List (κ × β)} (distinct : (l.map Prod.fst).Nodup)
    {m : OrderedMap κ β} (new : ∀ k ∈ l.map Prod.fst, m.get? k = none) :
    (l.foldl (fun m e => m.insert e.1 e.2) m).toList.Perm (m.toList ++ l) := by
  induction l generalizing m with
  | nil =>
    rw [List.append_nil]
    exact .refl _
  | cons e l ih =>
    rw [List.map_cons, List.nodup_cons] at distinct
    obtain ⟨front, back, before, after⟩ :=
      toList_insert_of_none (new e.1 (List.mem_cons_self ..)) e.2
    have rest : ∀ k ∈ l.map Prod.fst, (m.insert e.1 e.2).get? k = none := by
      intro k hk
      have other : k ≠ e.1 := fun same => distinct.1 (same ▸ hk)
      rw [get?_insert_of_ne _ other]
      exact new k (List.mem_cons_of_mem _ hk)
    refine (ih distinct.2 rest).trans ?_
    rw [after, before]
    exact (List.perm_middle.append_right l).trans List.perm_middle.symm

/-- The entries of a map that was built up are those that were put in. -/
theorem toList_ofList {l : List (κ × β)} (distinct : (l.map Prod.fst).Nodup) :
    (ofList l).toList.Perm l :=
  toList_foldl_insert distinct fun _ _ => rfl

end OrderedMap

end PublicFunds
