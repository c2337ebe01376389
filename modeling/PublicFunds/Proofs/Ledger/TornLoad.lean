import Mathlib.Control.Monad.Basic
import PublicFunds.Proofs.Ledger.Loading

/-!
# A document that is loaded in part

A genesis document should be loaded as a whole or not at all, and a rehearsal in memory is meant to
see to that.  It sees everything that is wrong with the document.  It cannot see what is wrong with
the ledger, since the ledger that it rehearses with was never used.

So a document that is fine is not held up by the rehearsal, and the books are written one after the
other until one is met that is in use.  What the books before it were given stays.  The rehearsal
would have to look at the books of this ledger as well.

The answer is exact: this is the only way for a document to be loaded in part, as long as nothing
goes wrong in the stores.  A book that is given nothing still has the last id written down, and so
it changes unless that stands there already.

* `Book.IsUnused`, `Book.Alters`: a book that can be loaded, and a section that shows in it.
* `Ledger.load_torn_iff`: when a document is loaded in part.
* `Ledger.tears_draftedRoads`: a document that is.
-/

namespace PublicFunds

namespace Book

/-- No id was ever given out in a book and it has no record. -/
def IsUnused (b : Book) (store : Store) : Prop := b.register.isEmpty store = .ok true

/-- A section shows in an unused book: it has a last id, or the book has none written down yet. -/
def Alters (b : Book) (store : Store) (x : b.Extract) : Prop :=
  b.countOf x ≠ 0 ∨ store.entries.get? [b.register.counter] ≠ some (Layout.count 0)

/-- In an unused book nothing or zero stands as the last id. -/
theorem countOf_counter {b : Book} {store : Store} (h : b.IsUnused store) {bs : Bytes}
    (written : store.entries.get? [b.register.counter] = some bs) :
    Layout.countOf (Record.kind b.Item) bs = .ok 0 := by
  unfold IsUnused Register.isEmpty at h
  split at h
  · cases h
  · next n hlast =>
    split at h
    · next hzero =>
      subst hzero
      unfold Register.last at hlast
      split at hlast
      · cases hlast
      · next hfind =>
        rw [← Store.find_eq_ok hfind] at written
        cases written
      · next found hfind =>
        rw [← Store.find_eq_ok hfind] at written
        cases written
        exact hlast
    · cases h

/-- A last id that nothing later in a batch writes over is there in the end. -/
theorem get?_counter_apply {ρ : Type} (r : Register ρ) (n : UInt64) (front : Batch) {back : Batch}
    (later : ∀ e ∈ back, [r.counter] ≠ e.key) (entries : Entries) :
    (entries.apply (front ++ r.setLast n ++ back)).get? [r.counter] = some (Layout.count n) := by
  rw [Entries.apply_append, Entries.get?_apply_of_notMem _ later, Entries.apply_append]
  exact OrderedMap.get?_insert_self ..

/-- Loading a section changes a book exactly if the section shows in it. -/
theorem apply_ne_iff {b : Book} {format : AddressFormat} {store : Store} {x : b.Extract}
    {batch : Batch} (h : b.load format store x = .ok ((), batch)) :
    store.entries.apply batch ≠ store.entries ↔ b.Alters store x := by
  obtain ⟨unused, front, back, rfl, later, none⟩ := exists_of_load h
  have after := get?_counter_apply b.register (b.countOf x) front later store.entries
  constructor
  · intro changed
    by_cases hcount : b.countOf x = 0
    · -- only the last id is written, so it did not stand there before
      refine .inr fun before => changed ?_
      obtain ⟨rfl, rfl⟩ := none hcount
      refine OrderedMap.ext_get? fun key => ?_
      by_cases hkey : key = [b.register.counter]
      · rw [hkey, before, after, hcount]
      · refine Entries.get?_apply_of_notMem _ fun e he => ?_
        rw [List.nil_append, List.append_nil] at he
        rw [List.mem_singleton.1 he]
        exact hkey
    · exact .inl hcount
  · intro shows same
    rw [same] at after
    have zero := countOf_counter unused after
    rw [Layout.countOf_count] at zero
    rcases shows with hcount | hbefore
    · exact hcount (Except.ok.inj zero)
    · rw [Except.ok.inj zero] at after
      exact hbefore after

end Book

namespace Ledger

/-! ## What the rehearsal sees -/

/-- A document can be loaded into an unused ledger exactly if the rehearsal accepts it. -/
theorem load_inMemory_fst (policy : Policy) (g : Genesis) :
    ((inMemory policy).load g).1 = ((inMemory policy).loadBooks g Book.all).1 := by
  cases h : ((inMemory policy).loadBooks g Book.all).1 with
  | error e => rw [load_of_error h]
  | ok u => rw [load_of_ok h, h]

/-- What a book makes of a section that it accepts in the rehearsal: it accepts it unless the book
is in use. -/
theorem loadPlan_of_rehearsed {ledger : Ledger} {g : Genesis} {b : Book} {batch : Batch}
    (h : (inMemory ledger.policy).loadPlan g b = .ok ((), batch)) :
    (∃ batch, ledger.loadPlan g b = .ok ((), batch)) ↔ b.IsUnused (ledger.store b) := by
  constructor
  · rintro ⟨_, accepted⟩
    exact (Book.exists_of_load accepted).1
  · intro unused
    have rehearsed : b.IsUnused ((inMemory ledger.policy).store b) := (Book.exists_of_load h).1
    exact ⟨batch, (b.load_congr _ (unused.trans rehearsed.symm) _).trans h⟩

/-- Every section of a document that the rehearsal accepts is accepted there. -/
theorem loadPlan_inMemory_of_ok {policy : Policy} {g : Genesis}
    (h : ((inMemory policy).loadBooks g Book.all).1 = .ok ()) (b : Book) :
    ∃ batch, (inMemory policy).loadPlan g b = .ok ((), batch) := by
  obtain ⟨front, back, split, accepted, -, -, ⟨rfl, -⟩ | ⟨bad, rest, e, -, -, refused⟩⟩ :=
    (healthy_inMemory policy).writable.loadBooks_cases g Book.nodup_all
  · rw [List.append_nil] at split
    exact accepted b (split ▸ Book.mem_all b)
  · rw [h] at refused
    cases refused

/-! ## What it does not see -/

/-- A document is fine, but it meets a book in use, and a book before that one shows its section. -/
def Tears (ledger : Ledger) (g : Genesis) : Prop :=
  ((inMemory ledger.policy).load g).1 = .ok () ∧
    ∃ front used back, Book.all = front ++ used :: back ∧
      (∀ b ∈ front, b.IsUnused (ledger.store b)) ∧ ¬ used.IsUnused (ledger.store used) ∧
      ∃ b ∈ front, b.Alters (ledger.store b) (g.extract b)

/-- The first element of a list without some property stands in one place only. -/
theorem eq_of_append_eq_append {α : Type} {P : α → Prop} {l m : List α} {x y : α} {xs ys : List α}
    (h : l ++ x :: xs = m ++ y :: ys) (hl : ∀ a ∈ l, P a) (hx : ¬ P x) (hm : ∀ a ∈ m, P a)
    (hy : ¬ P y) : l = m := by
  induction l generalizing m with
  | nil =>
    cases m with
    | nil => rfl
    | cons b m => exact absurd ((List.cons.inj h).1 ▸ hm b (List.mem_cons_self ..)) hx
  | cons a l ih =>
    cases m with
    | nil => exact absurd ((List.cons.inj h).1 ▸ hl a (List.mem_cons_self ..)) hy
    | cons b m =>
      obtain ⟨rfl, rest⟩ := List.cons.inj h
      rw [ih rest (fun c hc => hl c (List.mem_cons_of_mem _ hc))
        (fun c hc => hm c (List.mem_cons_of_mem _ hc))]

/-- **When a document is loaded in part.**  In a ledger in good health, loading a document fails and
leaves a store changed exactly if the document could be loaded into an unused ledger, some book of
this one is in use, and a section for a book before that one shows. -/
theorem load_torn_iff {ledger : Ledger} (healthy : ledger.Healthy) (g : Genesis) :
    ((∃ e, (ledger.load g).1 = .error e) ∧
        ∃ b, ((ledger.load g).2.store b).entries ≠ (ledger.store b).entries) ↔
      ledger.Tears g := by
  unfold Tears
  rw [load_inMemory_fst]
  cases rehearsal : ((inMemory ledger.policy).loadBooks g Book.all).1 with
  | error e =>
    rw [load_of_error rehearsal]
    simp
  | ok u =>
    have fine := loadPlan_inMemory_of_ok rehearsal
    have accepts : ∀ b, (∃ batch, ledger.loadPlan g b = .ok ((), batch)) ↔
        b.IsUnused (ledger.store b) := fun b => loadPlan_of_rehearsed (fine b).choose_spec
    have refuses : ∀ {b e}, ledger.loadPlan g b = .error e → ¬ b.IsUnused (ledger.store b) := by
      intro b e refused unused
      obtain ⟨batch, plan⟩ := (accepts b).2 unused
      rw [plan] at refused
      cases refused
    rw [load_of_ok rehearsal]
    obtain ⟨front, back, split, accepted, fore, aft, answered⟩ :=
      healthy.writable.loadBooks_cases g Book.nodup_all
    have shows : ∀ b ∈ front, (((ledger.loadBooks g Book.all).2.store b).entries ≠
        (ledger.store b).entries ↔ b.Alters (ledger.store b) (g.extract b)) := by
      intro b hb
      obtain ⟨batch, plan⟩ := accepted b hb
      rw [fore b hb, plan]
      exact Book.apply_ne_iff plan
    constructor
    · rintro ⟨⟨e, failed⟩, b, changed⟩
      rcases answered with ⟨-, done⟩ | ⟨bad, rest, e, rfl, refused, -⟩
      · rw [done] at failed
        cases failed
      · refine ⟨rfl, front, bad, rest, split, fun c hc => (accepts c).1 (accepted c hc),
          refuses refused, ?_⟩
        by_cases hb : b ∈ front
        · exact ⟨b, hb, (shows b hb).1 changed⟩
        · exact absurd (aft b hb) changed
    · rintro ⟨-, before, used, after, split', unused, inUse, b, hb, alters⟩
      rcases answered with ⟨rfl, -⟩ | ⟨bad, rest, e, rfl, refused, failed⟩
      · -- without a book that refuses its section there would be none in use
        rw [List.append_nil] at split
        have all : used ∈ front := split ▸ Book.mem_all used
        exact absurd ((accepts used).1 (accepted used all)) inUse
      · have same : before = front := eq_of_append_eq_append (split'.symm.trans split) unused inUse
          (fun c hc => (accepts c).1 (accepted c hc)) (refuses refused)
        rw [same] at hb
        exact ⟨⟨_, failed⟩, b, (shows b hb).2 alters⟩

/-- An unused ledger after a draft has been entered. -/
def draftedRoads : Ledger :=
  (inMemory .standard).run [.operate (.enterBudget (.drafted "works" "2025" "roads"
    ((Amount.ofNat? 7).getD .zero) "EUR" "0xaaaaaaaaaaaaaaaaaaaaaaaaaaaaaaaaaaaaaaaa"))]

/-- A document with one scorecard. -/
def oneScorecard : Genesis :=
  { Genesis.empty with
    scorecards := ⟨[⟨1, "0xaaaaaaaaaaaaaaaaaaaaaaaaaaaaaaaaaaaaaaaa", "honesty", 90, 1, "",
      "0xaaaaaaaaaaaaaaaaaaaaaaaaaaaaaaaaaaaaaaaa"⟩], 1⟩ }

/-- A document meets a budget, and its scorecard is loaded all the same. -/
theorem tears_draftedRoads : draftedRoads.Healthy ∧ draftedRoads.Tears oneScorecard := by
  have healthy : draftedRoads.Healthy := (healthy_inMemory .standard).run _
  have failed : (draftedRoads.load oneScorecard).1 =
      .error (.book .budgets (.genesis (.notEmpty "budget"))) := by decide +kernel
  have changed : ((draftedRoads.load oneScorecard).2.store .scorecards).entries ≠
      (draftedRoads.store .scorecards).entries := by decide +kernel
  exact ⟨healthy, (load_torn_iff healthy oneScorecard).1 ⟨⟨_, failed⟩, .scorecards, changed⟩⟩

/-- **A document is not always loaded as a whole or not at all.** -/
theorem not_forall_load_error_keeps :
    ¬ ∀ (steps : List Step) (g : Genesis) (b : Book),
      let ledger := (inMemory .standard).run steps
      (∃ e, (ledger.load g).1 = .error e) →
        ((ledger.load g).2.store b).entries = (ledger.store b).entries := by
  intro kept
  have failed : (draftedRoads.load oneScorecard).1 =
      .error (.book .budgets (.genesis (.notEmpty "budget"))) := by decide +kernel
  have changed : ((draftedRoads.load oneScorecard).2.store .scorecards).entries ≠
      (draftedRoads.store .scorecards).entries := by decide +kernel
  exact changed (kept _ oneScorecard .scorecards ⟨_, failed⟩)

end Ledger

end PublicFunds
