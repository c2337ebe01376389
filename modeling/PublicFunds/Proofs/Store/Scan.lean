import PublicFunds.Store.Basic

/-!
# What a scan shows

A store is asked for the entries whose keys start with some bytes.  It goes to the place of these
bytes in the order of the keys and stops at the first key that does not start with them.  That
nothing is missed takes that such keys stand next to each other: in lexicographic order none of them
comes before the bytes themselves, and whatever comes between the bytes and one of them starts with
the bytes too.  So a scan is the same as picking out the entries that are asked for, which is what
is easy to reason about.

The bytes may be any: without bytes everything is asked for, and after bytes that end in the highest
one there need not be a next key at which to stop.

* `Entries.isPrefix_of_between`: what comes between some bytes and a key that starts with them.
* `Entries.startingWith_eq_filter`: a scan picks out the entries that are asked for.
* `Entries.Shows`, `Store.shows_scan`: what a store answers.
-/

namespace PublicFunds

namespace Entries

/-! ## Stretches of ordered entries -/

/-- What comes before the first failure is all that passes, if nothing passes after a failure. -/
theorem takeWhile_eq_filter {α : Type} {p : α → Bool} {l : List α}
    (h : l.Pairwise fun a b => p b = true → p a = true) : l.takeWhile p = l.filter p := by
  induction l with
  | nil => rfl
  | cons a l ih =>
    obtain ⟨first, rest⟩ := List.pairwise_cons.1 h
    by_cases ha : p a = true
    · rw [List.takeWhile_cons_of_pos ha, List.filter_cons_of_pos ha, ih rest]
    · rw [List.takeWhile_cons_of_neg ha, List.filter_cons_of_neg ha, eq_comm,
        List.filter_eq_nil_iff]
      exact fun b hb hpb => ha (first b hb hpb)

/-- What comes from the first failure on is all that fails, if nothing passes after a failure. -/
theorem dropWhile_eq_filter {α : Type} {p : α → Bool} {l : List α}
    (h : l.Pairwise fun a b => p b = true → p a = true) :
    l.dropWhile p = l.filter fun a => !p a := by
  induction l with
  | nil => rfl
  | cons a l ih =>
    obtain ⟨first, rest⟩ := List.pairwise_cons.1 h
    by_cases ha : p a = true
    · rw [List.dropWhile_cons_of_pos ha, List.filter_cons_of_neg (by simp [ha]), ih rest]
    · rw [List.dropWhile_cons_of_neg ha, List.filter_cons_of_pos (by simp [ha]), eq_comm]
      congr 1
      rw [List.filter_eq_self]
      intro b hb
      simpa using fun hpb => ha (first b hb hpb)

/-! ## Keys that start with the same bytes -/

/-- No key that starts with some bytes comes before these. -/
theorem compare_append_ne_lt (lead rest : Bytes) : compare (lead ++ rest) lead ≠ .lt := by
  induction lead with
  | nil =>
    cases rest with
    | nil => decide
    | cons b rest => exact fun h => nomatch h
  | cons b lead ih =>
    rw [List.cons_append, List.compare_cons_cons, OrderedMap.compare_self]
    exact ih

/-- **What comes between some bytes and a key that starts with them starts with them too.** -/
theorem isPrefix_of_between {lead key rest : Bytes} (start : compare key lead ≠ .lt)
    (stop : compare key (lead ++ rest) = .lt) : lead <+: key := by
  induction lead generalizing key with
  | nil => exact List.nil_prefix
  | cons b lead ih =>
    cases key with
    | nil => exact absurd rfl start
    | cons c key =>
      rw [List.cons_append] at stop
      rw [List.compare_cons_cons] at start stop
      cases first : compare c b with
      | lt =>
        rw [first] at start
        exact absurd rfl start
      | gt =>
        rw [first] at stop
        cases stop
      | eq =>
        rw [first] at start stop
        rw [Std.LawfulEqCmp.eq_of_compare first]
        exact List.cons_prefix_cons.2 ⟨rfl, ih start stop⟩

/-! ## Scans -/

/-- **A scan picks out the entries that are asked for.** -/
theorem startingWith_eq_filter (entries : Entries) (lead : Bytes) :
    entries.startingWith lead = entries.toList.filter fun e => lead.isPrefixOf e.1 := by
  have before : entries.toList.Pairwise fun a b =>
      (compare b.1 lead == .lt) = true → (compare a.1 lead == .lt) = true := by
    refine entries.ascending.imp fun {a b} hab hb => ?_
    rw [beq_iff_eq] at hb ⊢
    exact Std.TransCmp.lt_trans hab hb
  have within : (entries.toList.filter fun e => !(compare e.1 lead == .lt)).Pairwise fun a b =>
      lead.isPrefixOf b.1 = true → lead.isPrefixOf a.1 = true := by
    refine (entries.ascending.filter _).imp_of_mem fun {a b} ha hb hab hpb => ?_
    obtain ⟨rest, hrest⟩ := List.isPrefixOf_iff_prefix.1 hpb
    have start : compare a.1 lead ≠ .lt := by simpa using (List.mem_filter.1 ha).2
    rw [← hrest] at hab
    exact List.isPrefixOf_iff_prefix.2 (isPrefix_of_between start hab)
  rw [startingWith, dropWhile_eq_filter before, takeWhile_eq_filter within, List.filter_filter]
  refine List.filter_congr fun e _ => ?_
  cases hp : lead.isPrefixOf e.1 with
  | false => rfl
  | true =>
    obtain ⟨rest, hrest⟩ := List.isPrefixOf_iff_prefix.1 hp
    simpa [← hrest] using compare_append_ne_lt lead rest

theorem mem_startingWith {entries : Entries} {lead key value : Bytes} :
    (key, value) ∈ entries.startingWith lead ↔ entries.get? key = some value ∧ lead <+: key := by
  rw [startingWith_eq_filter, List.mem_filter, List.isPrefixOf_iff_prefix,
    OrderedMap.get?_eq_some_iff]

theorem ascending_startingWith (entries : Entries) (lead : Bytes) :
    (entries.startingWith lead).Pairwise fun a b => compare a.1 b.1 = .lt := by
  rw [startingWith_eq_filter]
  exact entries.ascending.filter _

/-- A scan depends on the entries that are asked for only. -/
theorem startingWith_congr {e f : Entries} {lead : Bytes}
    (h : ∀ rest, e.get? (lead ++ rest) = f.get? (lead ++ rest)) :
    e.startingWith lead = f.startingWith lead := by
  refine OrderedMap.eq_of_mem_iff (ascending_startingWith e lead) (ascending_startingWith f lead) ?_
  rintro ⟨key, value⟩
  rw [mem_startingWith, mem_startingWith]
  constructor
  · rintro ⟨hkey, rest, rfl⟩
    exact ⟨(h rest).symm.trans hkey, rest, rfl⟩
  · rintro ⟨hkey, rest, rfl⟩
    exact ⟨(h rest).trans hkey, rest, rfl⟩

/-- Some entries are shown of a store: in the strict order of the keys, hence each of them once, all
whose key starts with some bytes, and no others. -/
structure Shows (entries : Entries) (lead : Bytes) (shown : List (Bytes × Bytes)) : Prop where
  ascending : shown.Pairwise fun a b => compare a.1 b.1 = .lt
  mem_iff : ∀ key value, (key, value) ∈ shown ↔ entries.get? key = some value ∧ lead <+: key

theorem shows_startingWith (entries : Entries) (lead : Bytes) :
    entries.Shows lead (entries.startingWith lead) :=
  ⟨ascending_startingWith entries lead, fun _ _ => mem_startingWith⟩

/-- There is one way to show them. -/
theorem Shows.unique {entries : Entries} {lead : Bytes} {shown shown' : List (Bytes × Bytes)}
    (h : entries.Shows lead shown) (h' : entries.Shows lead shown') : shown = shown' :=
  OrderedMap.eq_of_mem_iff h.ascending h'.ascending fun e =>
    (h.mem_iff e.1 e.2).trans (h'.mem_iff e.1 e.2).symm

end Entries

namespace Store

/-- A store that has no fault says what it holds. -/
theorem scan_eq_ok {store : Store} {lead : Bytes}
    (answers : store.faults.read (.scan lead) = none) :
    store.scan lead = .ok (store.entries.startingWith lead) := by
  rw [scan, ask, answers]

/-- **A scan shows exactly what is asked for.**  Whatever is stored and whatever bytes are asked for,
the scan is the one list that shows the entries whose keys start with these bytes; and this is what
every store answers that holds the entries, unless the question meets a fault. -/
theorem shows_scan (entries : Entries) (lead : Bytes) :
    entries.Shows lead (entries.startingWith lead) ∧
      (∀ other, entries.Shows lead other → other = entries.startingWith lead) ∧
      ∀ store : Store, store.entries = entries → store.faults.read (.scan lead) = none →
        store.scan lead = .ok (entries.startingWith lead) := by
  have shows := entries.shows_startingWith lead
  refine ⟨shows, fun _ other => other.unique shows, ?_⟩
  rintro store rfl answers
  exact scan_eq_ok answers

/-- Entries whose keys go on after the highest byte. -/
def highKeys : Entries :=
  .ofList [([2], [6]), ([1, 255, 255], [9]), ([1], [7]), ([1, 255], [8]), ([], [5])]

/-- After the highest byte there is no next byte, and still the scan ends where it should; without
bytes everything is shown. -/
theorem shows_highKeys :
    highKeys.Shows [1, 255] [([1, 255], [8]), ([1, 255, 255], [9])] ∧
      highKeys.Shows [] highKeys.toList ∧
      (⟨highKeys, .memory, .none⟩ : Store).scan [1, 255] =
        .ok [([1, 255], [8]), ([1, 255, 255], [9])] := by
  have found : highKeys.startingWith [1, 255] = [([1, 255], [8]), ([1, 255, 255], [9])] := by
    decide
  have all : highKeys.startingWith [] = highKeys.toList := by decide
  obtain ⟨shows, -, answered⟩ := shows_scan highKeys [1, 255]
  rw [found] at shows answered
  refine ⟨shows, ?_, answered _ rfl rfl⟩
  have everything := (shows_scan highKeys []).1
  rwa [all] at everything

end Store

end PublicFunds
