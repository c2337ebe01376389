import PublicFunds.Proofs.Register.Index
import PublicFunds.Proofs.Register.Section
import PublicFunds.Proofs.Store.Alike

/-!
# Registers in stores that cannot be told apart

Everything that a register asks of its store is about records, about its index or about the last id.
In stores that are the same up to a zero for the last id the answers are the same, and so is every
change that is worked out from them, with its batch.

* `Register.Alike`: stores that are the same for a register.
* `Register.Alike.find`, `Register.Alike.last`, `Register.Alike.lookup` and others: the questions.
* `Register.Alike.advance`, `Register.Alike.endorse`, `Register.Alike.enter`: the changes.
-/

namespace PublicFunds

namespace Register

variable {ρ : Type}

/-- Stores that are the same for a register, which keeps its records and its index apart from the
last id. -/
structure Alike (r : Register ρ) (s t : Store) : Prop where
  stores : Store.Alike [r.counter] s t
  apart : r.records ≠ r.counter

namespace Alike

variable {r : Register ρ} {s t : Store}

/-! ## Questions -/

section Questions

variable [Record ρ]

theorem find (h : r.Alike s t) (id : RecordId) : r.find s id = r.find t id := by
  rw [Register.find, Register.find, h.stores.find (Layout.idKey_ne_counter _ _ _)]

theorem get (h : r.Alike s t) (id : RecordId) : r.get s id = r.get t id := by
  rw [Register.get, Register.get, h.find]

omit [Record ρ] in
theorem contains (h : r.Alike s t) (id : RecordId) : r.contains s id = r.contains t id := by
  rw [Register.contains, Register.contains, h.stores.contains (Layout.idKey_ne_counter _ _ _)]

omit [Record ρ] in
theorem scan (h : r.Alike s t) : s.scan [r.records] = t.scan [r.records] :=
  h.stores.scan fun _ same => h.apart (List.cons.inj same).1

theorem walkList (h : r.Alike s t) (limit : Option Nat) :
    r.walkList s limit = r.walkList t limit := by
  rw [Register.walkList, Register.walkList, walk, walk, each, each, h.scan]

theorem all (h : r.Alike s t) : r.all s = r.all t := h.walkList none

/-- Asking for the last id is asking for what stands there, or for a zero. -/
theorem last_eq (r : Register ρ) (store : Store) :
    r.last store = match store.ask (.value [r.counter])
      ((store.entries.get? [r.counter]).getD (Layout.count 0)) with
        | .error fault => .error (.store fault)
        | .ok bs => Layout.countOf (Record.kind ρ) bs := by
  rw [Register.last, Store.find]
  unfold Store.ask
  cases store.faults.read (.value [r.counter]) with
  | some fault => rfl
  | none =>
    cases store.entries.get? [r.counter] with
    | some bs => rfl
    | none => exact (Layout.countOf_count ..).symm

theorem last (h : r.Alike s t) : r.last s = r.last t := by
  rw [last_eq, last_eq, h.stores.entries.count, Store.ask, Store.ask, h.stores.faults]

theorem isEmpty (h : r.Alike s t) : r.isEmpty s = r.isEmpty t := by
  rw [Register.isEmpty, Register.isEmpty, h.last, h.scan]

theorem extract (h : r.Alike s t) : r.extract s = r.extract t := by
  rw [Register.extract, Register.extract, h.all, h.last]

theorem lookup (h : r.Alike s t) (pair : PairKey) : r.lookup s pair = r.lookup t pair := by
  unfold Register.lookup
  cases r.indexRegion with
  | error e => rfl
  | ok region => simp only [h.stores.find (pairKey_ne_counter _ _ _)]

theorem getByPair (h : r.Alike s t) (pair : PairKey) : r.getByPair s pair = r.getByPair t pair := by
  rw [Register.getByPair, Register.getByPair, h.lookup]
  simp only [h.get]

theorem findByPair (h : r.Alike s t) (pair : PairKey) :
    r.findByPair s pair = r.findByPair t pair := by
  rw [Register.findByPair, Register.findByPair, h.lookup]
  simp only [h.find]

end Questions

/-! ## Changes -/

section Changes

variable [Record ρ]

theorem add (h : r.Alike s t) (x : ρ) : r.add s x = r.add t x := by
  rw [Register.add, Register.add, next, next, h.last]

theorem upsert [Paired ρ] (h : r.Alike s t) (x : ρ) : r.upsert s x = r.upsert t x := by
  have settled : r.settle s x = r.settle t x := by
    rw [settle, settle, h.lookup, dropPair, dropPair, h.find]
  rw [Register.upsert, Register.upsert, settled]
  simp only [h.add]

variable [Vetted ρ]

theorem enter [Paired ρ] (h : r.Alike s t) (format : AddressFormat) (x : ρ) (settled : ρ → ρ) :
    r.enter format s x settled = r.enter format t x settled := by
  rw [Register.enter, Register.enter, h.contains, h.upsert]

variable {σ : Type} [Lifecycle σ] [DecidableEq σ] [Governed ρ σ]

theorem advance (h : r.Alike s t) (policy : Policy) (scores : ScoreSource) (id : RecordId)
    (next : σ) : r.advance policy s scores id next = r.advance policy t scores id next := by
  rw [Register.advance, Register.advance, h.get]

omit [DecidableEq σ] in
theorem endorse (h : r.Alike s t) (policy : Policy) (scores : ScoreSource) (id : RecordId)
    (approval : Approval) (contract : String) :
    r.endorse policy s scores id approval contract =
      r.endorse policy t scores id approval contract := by
  rw [Register.endorse, Register.endorse, h.get]

end Changes

end Alike

end Register

/-! ## Tallies -/

namespace Tally

variable {α : Type} {tally : Tally α} {key : Bytes} {s t : Store}

theorem find_alike (h : Store.Alike key s t) (outside : ∀ rest, tally.region :: rest ≠ key)
    (id : RecordId) : tally.find s id = tally.find t id := by
  rw [find, find, h.find (k := Layout.idKey tally.region id) (outside _)]

theorem entries_alike (h : Store.Alike key s t) (outside : ∀ rest, tally.region :: rest ≠ key) :
    tally.entries s = tally.entries t := by
  rw [entries, entries, h.scan outside]

end Tally

end PublicFunds
