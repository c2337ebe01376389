import PublicFunds.Proofs.Ledger.History
import PublicFunds.Proofs.Register.Section

/-!
# Loading the sections of a document

The sections of a document are loaded book by book, up to the first that is refused.  Each section
goes into a store of its own.  So what a book makes of its section does not depend on the books that
come before it, and what is loaded in the end is read off the ledger as it was: the sections up to
the first one that its book refuses.

All of this is about ledgers in which writes succeed.  A write that fails is one more reason for a
section to be refused, and it is none that can be told from the document.

* `Ledger.Healthy`, `Ledger.Writable`: nothing goes wrong in any store, or no write does.
* `Ledger.loadPlan`: what a book makes of its section.
* `Ledger.Writable.loadBooks_cases`: what is loaded, and what is answered.
-/

namespace PublicFunds

/-- The batch of a plan; nothing if it is refused. -/
def Plan.batch {α : Type} : Plan α → Batch
  | .error _ => []
  | .ok (_, batch) => batch

theorem Book.nodup_all : Book.all.Nodup := by decide

namespace Ledger

/-- Nothing goes wrong in any store of a ledger. -/
def Healthy (ledger : Ledger) : Prop := ∀ b, (ledger.store b).Healthy

/-- Writes succeed in every store of a ledger. -/
def Writable (ledger : Ledger) : Prop := ∀ b, (ledger.store b).Writable

theorem Healthy.writable {ledger : Ledger} (h : ledger.Healthy) : ledger.Writable :=
  fun b => (h b).writable

/-- What a book makes of its section. -/
def loadPlan (ledger : Ledger) (g : Genesis) (b : Book) : Plan Unit :=
  b.load ledger.policy.addresses (ledger.store b) (g.extract b)

theorem healthy_inMemory (policy : Policy) : (inMemory policy).Healthy := by
  intro b
  cases b <;> rfl

/-- What a book makes of its section depends on its own store. -/
theorem loadPlan_congr {l m : Ledger} (policy : l.policy = m.policy) {b : Book}
    (store : l.store b = m.store b) (g : Genesis) : l.loadPlan g b = m.loadPlan g b := by
  rw [loadPlan, loadPlan, policy, store]

/-- Loading a section leaves the other books alone. -/
theorem store_loadBook_of_ne (ledger : Ledger) (g : Genesis) {b c : Book} (h : c ≠ b) :
    (ledger.loadBook g b).2.store c = ledger.store c := by
  rw [loadBook_snd, store_withStore_of_ne _ h]

theorem store_loadBook_self (ledger : Ledger) (g : Genesis) (b : Book) :
    (ledger.loadBook g b).2.store b = ((ledger.store b).carryOut (ledger.loadPlan g b)).2 := by
  rw [loadBook_snd, store_withStore_self]
  rfl

/-- A section that its book refuses leaves nothing behind. -/
theorem loadBook_of_error {ledger : Ledger} {g : Genesis} {b : Book} {e : RecordError}
    (refused : ledger.loadPlan g b = .error e) :
    (ledger.loadBook g b).1 = .error (.book b e) ∧
      ∀ c, ((ledger.loadBook g b).2.store c).entries = (ledger.store c).entries := by
  constructor
  · have plan := refused
    unfold loadPlan at plan
    rw [loadBook_fst, plan]
    rfl
  · intro c
    by_cases hc : c = b
    · subst hc
      rw [store_loadBook_self, refused]
      rfl
    · rw [store_loadBook_of_ne _ _ hc]

theorem loadBooks_cons_of_error {ledger : Ledger} {g : Genesis} {b : Book} {e : LedgerError}
    (h : (ledger.loadBook g b).1 = .error e) (rest : List Book) :
    ledger.loadBooks g (b :: rest) = (.error e, (ledger.loadBook g b).2) := by
  rw [loadBooks]
  rcases hl : ledger.loadBook g b with ⟨result, after⟩
  rw [hl] at h
  cases h
  rfl

theorem loadBooks_cons_of_ok {ledger : Ledger} {g : Genesis} {b : Book}
    (h : (ledger.loadBook g b).1 = .ok ()) (rest : List Book) :
    ledger.loadBooks g (b :: rest) = (ledger.loadBook g b).2.loadBooks g rest := by
  rw [loadBooks]
  rcases hl : ledger.loadBook g b with ⟨result, after⟩
  rw [hl] at h
  cases h
  rfl

/-- A document that a rehearsal accepts is loaded book by book. -/
theorem load_of_ok {ledger : Ledger} {g : Genesis}
    (h : ((inMemory ledger.policy).loadBooks g Book.all).1 = .ok ()) :
    ledger.load g = ledger.loadBooks g Book.all := by
  rw [load, h]

/-- A document that a rehearsal does not accept is not loaded. -/
theorem load_of_error {ledger : Ledger} {g : Genesis} {e : LedgerError}
    (h : ((inMemory ledger.policy).loadBooks g Book.all).1 = .error e) :
    ledger.load g = (.error e, ledger) := by
  rw [load, h]

namespace Writable

variable {ledger : Ledger}

theorem loadBook (h : ledger.Writable) (g : Genesis) (b : Book) :
    (ledger.loadBook g b).2.Writable := by
  intro c
  by_cases hc : c = b
  · subst hc
    rw [store_loadBook_self]
    exact (congrArg Store.Faults.write (Store.faults_carryOut ..)).trans (h c)
  · rw [store_loadBook_of_ne _ _ hc]
    exact h c

/-- A section that its book accepts is written. -/
theorem loadBook_of_ok (h : ledger.Writable) {g : Genesis} {b : Book} {batch : Batch}
    (accepted : ledger.loadPlan g b = .ok ((), batch)) :
    (ledger.loadBook g b).1 = .ok () ∧
      ((ledger.loadBook g b).2.store b).entries = (ledger.store b).entries.apply batch := by
  obtain ⟨answer, written⟩ := (h b).carryOut () batch
  constructor
  · have plan := accepted
    unfold loadPlan at plan
    rw [loadBook_fst, plan, answer]
    rfl
  · rw [store_loadBook_self, accepted]
    exact written

/-- **Loading some sections.**  There is a first section that its book refuses, or there is none.
The sections before it are written, everything else is as it was, and the answer is that book's. -/
theorem loadBooks_cases (h : ledger.Writable) (g : Genesis) {books : List Book}
    (distinct : books.Nodup) :
    ∃ front back, books = front ++ back ∧
      (∀ b ∈ front, ∃ batch, ledger.loadPlan g b = .ok ((), batch)) ∧
      (∀ b ∈ front, ((ledger.loadBooks g books).2.store b).entries =
        (ledger.store b).entries.apply (ledger.loadPlan g b).batch) ∧
      (∀ b, b ∉ front →
        ((ledger.loadBooks g books).2.store b).entries = (ledger.store b).entries) ∧
      ((back = [] ∧ (ledger.loadBooks g books).1 = .ok ()) ∨
        ∃ bad rest e, back = bad :: rest ∧ ledger.loadPlan g bad = .error e ∧
          (ledger.loadBooks g books).1 = .error (.book bad e)) := by
  induction books generalizing ledger with
  | nil =>
    exact ⟨[], [], rfl, by simp, by simp, fun _ _ => rfl, .inl ⟨rfl, rfl⟩⟩
  | cons b rest ih =>
    obtain ⟨new, distinct⟩ := List.nodup_cons.1 distinct
    rcases hplan : ledger.loadPlan g b with e | ⟨⟨⟩, batch⟩
    · obtain ⟨answer, kept⟩ := loadBook_of_error hplan
      rw [loadBooks_cons_of_error answer]
      exact ⟨[], b :: rest, rfl, by simp, by simp, fun c _ => kept c,
        .inr ⟨b, rest, e, rfl, hplan, rfl⟩⟩
    · obtain ⟨answer, written⟩ := h.loadBook_of_ok hplan
      rw [loadBooks_cons_of_ok answer]
      obtain ⟨front, back, hsplit, accepted, fore, aft, answered⟩ := ih (h.loadBook g b) distinct
      -- the books that are still to come look as they did before this one
      have same : ∀ c ∈ rest, (ledger.loadBook g b).2.loadPlan g c = ledger.loadPlan g c := by
        intro c hc
        have hne : c ≠ b := fun hcb => new (hcb ▸ hc)
        exact loadPlan_congr (ledger.policy_loadBook g b) (store_loadBook_of_ne _ _ hne) g
      have inRest : ∀ c ∈ front, c ∈ rest := fun c hc => hsplit ▸ List.mem_append_left _ hc
      refine ⟨b :: front, back, by rw [hsplit]; rfl, ?_, ?_, ?_, ?_⟩
      · intro c hc
        rcases List.mem_cons.1 hc with rfl | hc
        · exact ⟨batch, hplan⟩
        · rw [← same c (inRest c hc)]
          exact accepted c hc
      · intro c hc
        rcases List.mem_cons.1 hc with rfl | hc
        · have unseen : c ∉ front := fun hcf => new (inRest c hcf)
          rw [aft c unseen, written, hplan]
          rfl
        · have hne : c ≠ b := fun hcb => new (hcb ▸ inRest c hc)
          rw [fore c hc, same c (inRest c hc), store_loadBook_of_ne _ _ hne]
      · intro c hc
        obtain ⟨hne, hcf⟩ := not_or.1 (mt List.mem_cons.2 hc)
        rw [aft c hcf, store_loadBook_of_ne _ _ hne]
      · rcases answered with done | ⟨bad, others, e, hback, hbad, stop⟩
        · exact .inl done
        · refine .inr ⟨bad, others, e, hback, ?_, stop⟩
          rw [← same bad]
          · exact hbad
          · rw [hsplit, hback]
            exact List.mem_append_right _ (List.mem_cons_self ..)

/-- Sections that their books accept are all loaded. -/
theorem loadBooks_of_ok (h : ledger.Writable) {g : Genesis} {books : List Book}
    (distinct : books.Nodup)
    (accepted : ∀ b ∈ books, ∃ batch, ledger.loadPlan g b = .ok ((), batch)) :
    (ledger.loadBooks g books).1 = .ok () ∧
      ∀ b ∈ books, ((ledger.loadBooks g books).2.store b).entries =
        (ledger.store b).entries.apply (ledger.loadPlan g b).batch := by
  obtain ⟨front, back, split, -, fore, -, ⟨rfl, done⟩ | ⟨bad, rest, e, rfl, refused, -⟩⟩ :=
    h.loadBooks_cases g distinct
  · rw [List.append_nil] at split
    exact ⟨done, fun b hb => fore b (split ▸ hb)⟩
  · obtain ⟨batch, plan⟩ := accepted bad (split ▸ List.mem_append_right _ (List.mem_cons_self ..))
    rw [refused] at plan
    cases plan

end Writable

namespace Healthy

variable {ledger : Ledger}

theorem budgets (h : ledger.Healthy) : ledger.budgets.Healthy := h .budgets

theorem loadBook (h : ledger.Healthy) (g : Genesis) (b : Book) :
    (ledger.loadBook g b).2.Healthy := by
  intro c
  by_cases hc : c = b
  · subst hc
    rw [store_loadBook_self]
    exact (h c).after _
  · rw [store_loadBook_of_ne _ _ hc]
    exact h c

/-- Loading a document leaves a ledger in good health. -/
theorem load (h : ledger.Healthy) (g : Genesis) : (ledger.load g).2.Healthy :=
  load_keeps (P := Healthy) (fun _ b hl => hl.loadBook g b) ledger h

/-- An operation leaves a ledger in good health. -/
theorem performWith (h : ledger.Healthy) (sources : Sources) (op : Operation) :
    (ledger.performWith sources op).2.Healthy := by
  intro b
  by_cases hb : b = op.book
  · subst hb
    rw [store_performWith]
    exact (h op.book).after _
  · rw [store_performWith_of_ne _ _ hb]
    exact h b

/-- A step leaves a ledger in good health. -/
theorem step (h : ledger.Healthy) (s : Step) : (ledger.step s).2.Healthy := by
  cases s with
  | operate op => exact h.performWith _ op
  | load g =>
    rw [step_load_snd]
    exact h.load g

/-- A run leaves a ledger in good health. -/
theorem run (h : ledger.Healthy) (steps : List Step) : (ledger.run steps).Healthy := by
  induction steps generalizing ledger with
  | nil => exact h
  | cons s steps ih => exact ih (h.step s)

/-- A history of steps leaves a ledger in good health. -/
theorem history (h : ledger.Healthy) {events : List Event}
    (steps : ∀ e ∈ events, ∃ s, e = .step s) : (ledger.history events).Healthy := by
  induction events generalizing ledger with
  | nil => exact h
  | cons e events ih =>
    obtain ⟨s, rfl⟩ := steps e (List.mem_cons_self ..)
    exact ih (h.step s) fun e' he' => steps e' (List.mem_cons_of_mem _ he')

end Healthy

end Ledger

end PublicFunds
