import PublicFunds.Bytes.Basic
import PublicFunds.OrderedMap

/-!
# What a store holds

A store holds values under keys, both byte strings, in the lexicographic order of the keys.  It is
changed by edits, and edits that belong together are applied as one batch, the last edit of a key
deciding.

* `Entries.apply`: the entries after a batch.
* `Entries.startingWith`: the entries under a common beginning of the key.
-/

namespace PublicFunds

/-- The contents of a store. -/
abbrev Entries := OrderedMap Bytes Bytes

/-- One change of a store's contents. -/
inductive Edit where
  | put (key value : Bytes)
  | delete (key : Bytes)
  deriving DecidableEq, Repr

/-- Edits that take effect together. -/
abbrev Batch := List Edit

/-- The key that an edit concerns. -/
def Edit.key : Edit → Bytes
  | .put key _ => key
  | .delete key => key

namespace Entries

/-- The entries after one edit. -/
def edit (entries : Entries) : Edit → Entries
  | .put key value => entries.insert key value
  | .delete key => entries.erase key

/-- The entries after a batch. -/
def apply (entries : Entries) (batch : Batch) : Entries := batch.foldl edit entries

@[simp] theorem apply_nil (entries : Entries) : apply entries [] = entries := rfl

@[simp] theorem apply_cons (entries : Entries) (e : Edit) (batch : Batch) :
    apply entries (e :: batch) = apply (edit entries e) batch := rfl

theorem apply_append (entries : Entries) (first second : Batch) :
    apply entries (first ++ second) = apply (apply entries first) second := by
  simp [apply, List.foldl_append]

/-- An edit leaves the values under all other keys alone. -/
theorem get?_edit_of_ne (entries : Entries) {e : Edit} {key : Bytes} (h : key ≠ e.key) :
    (edit entries e).get? key = entries.get? key := by
  cases e with
  | put k v => exact entries.get?_insert_of_ne h v
  | delete k => exact entries.get?_erase_of_ne h

/-- A batch leaves the values under the keys that it does not name alone. -/
theorem get?_apply_of_notMem (entries : Entries) {batch : Batch} {key : Bytes}
    (h : ∀ e ∈ batch, key ≠ e.key) : (apply entries batch).get? key = entries.get? key := by
  induction batch generalizing entries with
  | nil => rfl
  | cons e batch ih =>
    rw [apply_cons, ih _ fun e' he' => h e' (List.mem_cons_of_mem _ he'),
      get?_edit_of_ne _ (h e (List.mem_cons_self ..))]

/-- The entries whose key starts with `lead`.  They are neighbours in the order of the keys: none
comes before `lead` itself, and the first key that does not start with it ends them. -/
def startingWith (entries : Entries) (lead : Bytes) : List (Bytes × Bytes) :=
  (entries.toList.dropWhile fun e => compare e.1 lead == .lt).takeWhile fun e =>
    lead.isPrefixOf e.1

end Entries

end PublicFunds
