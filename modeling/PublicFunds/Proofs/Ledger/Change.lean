import PublicFunds.Proofs.Ledger.Loading
import PublicFunds.Proofs.Lifecycle.Change
import PublicFunds.Proofs.Register.Contents

/-!
# What can happen to a ledger

There are many operations, but few things that they do to a book.  Records are entered, they are
revised, a record under a pair is replaced, and an export is loaded.  Here every operation is taken
apart once, and so is every event: what it does to one store is what one operation does to it, or
nothing at all.

So a property of one book is kept by every history if it is kept by these few changes.  A property
that concerns several books is followed along a history by `Ledger.history_induction`.

* `Book.Changes`, `Operation.plan_eq_ok`: what an operation does to its book.
* `Ledger.entries_performWith`, `Ledger.entries_undergo`: what happens to the contents of one store.
* `Ledger.history_induction`: what every event of a history keeps.
* `Ledger.entries_history`: what every operation keeps of the contents of its store.
-/

namespace PublicFunds

/-! ## Operations taken apart -/

/-- What is known once a budget has been entered. -/
theorem Budget.enter_eq_ok {format : AddressFormat} {store : Store} {b : Budget} {id : RecordId}
    {batch : Batch} (h : Budget.enter format store b = .ok (id, batch)) :
    ∃ y, id = Record.id y ∧ checkFields format (Governed.fresh b) = .ok () ∧
      register.add store (Governed.fresh b) = .ok (y, batch) := by
  unfold Budget.enter at h
  simp only at h
  split at h
  · cases h
  · next checked =>
    split at h
    · cases h
    · next y writing added =>
      cases h
      exact ⟨y, rfl, checked, added⟩

/-- What is known once a procurement has been entered. -/
theorem Procurement.enter_eq_ok {format : AddressFormat} {store : Store} {budgets : BudgetSource}
    {p : Procurement} {id : RecordId} {batch : Batch}
    (h : Procurement.enter format store budgets p = .ok (id, batch)) :
    ∃ b y, id = Record.id y ∧ checkFields format (Governed.fresh p) = .ok () ∧
      budgets p.budget = .ok (some b) ∧ register.add store (Governed.fresh p) = .ok (y, batch) := by
  unfold Procurement.enter at h
  simp only at h
  split at h
  · cases h
  · next checked =>
    split at h
    · cases h
    · cases h
    · next b found =>
      split at h
      · cases h
      · next y writing added =>
        cases h
        exact ⟨b, y, rfl, checked, found, added⟩

/-- What is known once a delegation has been given up. -/
theorem Delegation.deactivate_eq_ok {store : Store} {id : RecordId} {answer : Delegation}
    {batch : Batch} (h : deactivate store id = .ok (answer, batch)) :
    ∃ d, register.find store id = .ok (some d) ∧
      (batch = [] ∨ batch = [register.entry { d with active := false }]) := by
  unfold deactivate at h
  split at h
  · cases h
  · next d found =>
    refine ⟨d, Register.get_eq_ok.1 found, ?_⟩
    split at h
    · simp only at h
      split at h
      · cases h
      · next staged =>
        cases h
        exact .inr (Register.stage_eq_ok staged)
    · cases h
      exact .inl rfl

/-- The plan of an operation is that of its register, and so is its answer. -/
theorem Operation.answering_eq_ok_iff {α : Type} {plan : Plan α} {outcome : α → Outcome}
    {answer : Outcome} {batch : Batch} :
    answering plan outcome = .ok (answer, batch) ↔
      ∃ a, plan = .ok (a, batch) ∧ outcome a = answer := by
  cases plan with
  | error e => simp [answering, Except.map]
  | ok p =>
    obtain ⟨a, batch'⟩ := p
    simp only [answering, Except.map, Except.ok.injEq, Prod.mk.injEq]
    constructor
    · rintro ⟨rfl, rfl⟩
      exact ⟨a, ⟨rfl, rfl⟩, rfl⟩
    · rintro ⟨_, ⟨rfl, rfl⟩, rfl⟩
      exact ⟨rfl, rfl⟩

theorem Operation.answering_eq_ok {α : Type} {plan : Plan α} {outcome : α → Outcome}
    {answer : Outcome} {batch : Batch} (h : answering plan outcome = .ok (answer, batch)) :
    ∃ a, plan = .ok (a, batch) :=
  (answering_eq_ok_iff.1 h).imp fun _ h => h.1

/-- An operation loads an export. -/
def Operation.Loads : Operation → Prop
  | .loadBook .. => True
  | _ => False

/-- What an operation does to its book, if it does not load an export. -/
def Book.Changes (b : Book) (format : AddressFormat) (sources : Sources) (store : Store)
    (batch : Batch) : Prop :=
  match b with
  | .scorecards => ∃ card id, Scorecard.upsert format store card = .ok (id, batch)
  | .budgets =>
    (∃ b id, Budget.enter format store b = .ok (id, batch)) ∨
      Budget.register.RevisesIn format store batch
  | .procurements =>
    (∃ p id, Procurement.enter format store sources.budgets p = .ok (id, batch)) ∨
      Procurement.register.RevisesIn format store batch
  | .disbursements =>
    (∃ d id, Disbursement.enter format store sources.procurements d = .ok (id, batch)) ∨
      Disbursement.register.RevisesIn format store batch
  | .delegations =>
    (∃ d id, Delegation.enter format store d = .ok (id, batch)) ∨
      ∃ id d, Delegation.deactivate store id = .ok (d, batch)

/-- **What is known once an operation has been worked out.** -/
theorem Operation.plan_eq_ok {policy : Policy} {sources : Sources} {store : Store} {op : Operation}
    {answer : Outcome} {batch : Batch} (h : op.plan policy sources store = .ok (answer, batch)) :
    (op.Loads ∧ ∃ x, op.book.load policy.addresses store x = .ok ((), batch)) ∨
      ¬ op.Loads ∧ op.book.Changes policy.addresses sources store batch := by
  cases op with
  | rate card =>
    obtain ⟨id, planned⟩ := answering_eq_ok h
    exact .inr ⟨not_false, card, id, planned⟩
  | enterBudget b =>
    obtain ⟨id, planned⟩ := answering_eq_ok h
    exact .inr ⟨not_false, .inl ⟨b, id, planned⟩⟩
  | advanceBudget id next =>
    obtain ⟨y, planned⟩ := answering_eq_ok h
    exact .inr ⟨not_false, .inr (Register.revisesIn_of_advance planned)⟩
  | endorseBudget id approval contract =>
    obtain ⟨y, planned⟩ := answering_eq_ok h
    exact .inr ⟨not_false, .inr (Register.revisesIn_of_endorse planned)⟩
  | enterProcurement p =>
    obtain ⟨id, planned⟩ := answering_eq_ok h
    exact .inr ⟨not_false, .inl ⟨p, id, planned⟩⟩
  | advanceProcurement id next =>
    obtain ⟨y, planned⟩ := answering_eq_ok h
    exact .inr ⟨not_false, .inr (Register.revisesIn_of_advance planned)⟩
  | endorseProcurement id approval contract =>
    obtain ⟨y, planned⟩ := answering_eq_ok h
    exact .inr ⟨not_false, .inr (Register.revisesIn_of_endorse planned)⟩
  | enterDisbursement d =>
    obtain ⟨id, planned⟩ := answering_eq_ok h
    exact .inr ⟨not_false, .inl ⟨d, id, planned⟩⟩
  | advanceDisbursement id next =>
    obtain ⟨y, planned⟩ := answering_eq_ok h
    exact .inr ⟨not_false, .inr (Register.revisesIn_of_advance planned)⟩
  | endorseDisbursement id approval contract =>
    obtain ⟨y, planned⟩ := answering_eq_ok h
    exact .inr ⟨not_false, .inr (Register.revisesIn_of_endorse planned)⟩
  | delegate d =>
    obtain ⟨id, planned⟩ := answering_eq_ok h
    exact .inr ⟨not_false, .inl ⟨d, id, planned⟩⟩
  | deactivate id =>
    obtain ⟨d, planned⟩ := answering_eq_ok h
    exact .inr ⟨not_false, .inr ⟨id, d, planned⟩⟩
  | loadBook b x =>
    obtain ⟨⟨⟩, planned⟩ := answering_eq_ok
      (show answering (b.load policy.addresses store x) (fun () => .done) = _ from h)
    exact .inl ⟨trivial, x, planned⟩

namespace Ledger

/-! ## One store over time -/

/-- Sections of other books leave a book alone. -/
theorem store_loadBooks_of_notMem {g : Genesis} {books : List Book} {c : Book} (h : c ∉ books)
    (ledger : Ledger) : (ledger.loadBooks g books).2.store c = ledger.store c := by
  induction books generalizing ledger with
  | nil => rfl
  | cons b rest ih =>
    obtain ⟨hne, hrest⟩ := not_or.1 (mt List.mem_cons.2 h)
    cases hanswer : (ledger.loadBook g b).1 with
    | error e => rw [loadBooks_cons_of_error hanswer, store_loadBook_of_ne _ _ hne]
    | ok u => rw [loadBooks_cons_of_ok hanswer, ih hrest, store_loadBook_of_ne _ _ hne]

/-- Loading some sections changes a store by that of its book, or not at all. -/
theorem store_loadBooks {g : Genesis} {books : List Book} (distinct : books.Nodup)
    (ledger : Ledger) (c : Book) :
    (ledger.loadBooks g books).2.store c = ledger.store c ∨
      (ledger.loadBooks g books).2.store c =
        ((ledger.store c).carryOut (ledger.loadPlan g c)).2 := by
  induction books generalizing ledger with
  | nil => exact .inl rfl
  | cons b rest ih =>
    obtain ⟨new, distinct⟩ := List.nodup_cons.1 distinct
    by_cases hc : c = b
    · subst hc
      cases hanswer : (ledger.loadBook g c).1 with
      | error e => exact .inr (by rw [loadBooks_cons_of_error hanswer, store_loadBook_self])
      | ok u =>
        rw [loadBooks_cons_of_ok hanswer, store_loadBooks_of_notMem new]
        exact .inr (store_loadBook_self ..)
    · have same := ledger.store_loadBook_of_ne g hc
      cases hanswer : (ledger.loadBook g b).1 with
      | error e => exact .inl (by rw [loadBooks_cons_of_error hanswer, same])
      | ok u =>
        rw [loadBooks_cons_of_ok hanswer]
        have rest := ih distinct (ledger.loadBook g b).2
        rwa [same, loadPlan_congr (ledger.policy_loadBook g b) same] at rest

/-- Sections that have all been loaded are each in the store of their book. -/
theorem store_loadBooks_of_ok {g : Genesis} {books : List Book} (distinct : books.Nodup)
    {ledger : Ledger} (loaded : (ledger.loadBooks g books).1 = .ok ()) :
    ∀ c ∈ books, ∃ batch, ledger.loadPlan g c = .ok ((), batch) ∧
      ((ledger.store c).carryOut (ledger.loadPlan g c)).1 = .ok () ∧
      (ledger.loadBooks g books).2.store c =
        ((ledger.store c).carryOut (ledger.loadPlan g c)).2 := by
  induction books generalizing ledger with
  | nil => exact fun c hc => absurd hc List.not_mem_nil
  | cons b rest ih =>
    obtain ⟨new, distinct⟩ := List.nodup_cons.1 distinct
    cases hanswer : (ledger.loadBook g b).1 with
    | error e =>
      rw [loadBooks_cons_of_error hanswer] at loaded
      cases loaded
    | ok u =>
      rw [loadBooks_cons_of_ok hanswer] at loaded ⊢
      intro c hc
      rcases List.mem_cons.1 hc with rfl | hc
      · rw [store_loadBooks_of_notMem new, store_loadBook_self]
        have answer := ledger.loadBook_fst g c
        rw [hanswer] at answer
        rcases (ledger.store c).carryOut_cases (ledger.loadPlan g c) with
          ⟨e, refused, -⟩ | ⟨⟨⟩, batch, planned, done, -⟩
        · rw [loadPlan] at refused
          rw [refused] at answer
          cases answer
        · exact ⟨batch, planned, done, rfl⟩
      · have hne : c ≠ b := fun hcb => new (hcb ▸ hc)
        have same := ledger.store_loadBook_of_ne g hne
        have rest := ih distinct loaded c hc
        rwa [same, loadPlan_congr (ledger.policy_loadBook g b) same] at rest

/-- A document that has been loaded is in the stores, section by section. -/
theorem store_load_of_ok {ledger after : Ledger} {g : Genesis}
    (loaded : ledger.load g = (.ok (), after)) (c : Book) :
    ∃ batch, ledger.loadPlan g c = .ok ((), batch) ∧
      ((ledger.store c).carryOut (ledger.loadPlan g c)).1 = .ok () ∧
      after.store c = ((ledger.store c).carryOut (ledger.loadPlan g c)).2 := by
  unfold load at loaded
  split at loaded
  · cases loaded
  · have answer : (ledger.loadBooks g Book.all).1 = .ok () := by rw [loaded]
    have there := store_loadBooks_of_ok Book.nodup_all answer c c.mem_all
    rwa [loaded] at there

/-- The entries after a document has been loaded. -/
theorem entries_load_of_ok {ledger after : Ledger} {g : Genesis}
    (loaded : ledger.load g = (.ok (), after)) (c : Book) :
    ∃ batch, ledger.loadPlan g c = .ok ((), batch) ∧
      (after.store c).entries = (ledger.store c).entries.apply batch := by
  obtain ⟨batch, planned, done, there⟩ := store_load_of_ok loaded c
  refine ⟨batch, planned, ?_⟩
  rw [there]
  rcases (ledger.store c).carryOut_cases (ledger.loadPlan g c) with
    ⟨e, refused, -⟩ | ⟨⟨⟩, batch', planned', -, written⟩
  · rw [done] at refused
    cases refused
  · cases planned.symm.trans planned'
    exact written

/-- Loading a document changes a store by the section of its book, or not at all. -/
theorem store_load (ledger : Ledger) (g : Genesis) (c : Book) :
    (ledger.load g).2.store c = ledger.store c ∨
      (ledger.load g).2.store c = ((ledger.store c).carryOut (ledger.loadPlan g c)).2 := by
  unfold load
  split
  · exact .inl rfl
  · exact store_loadBooks Book.nodup_all ledger c

/-- An operation changes one store by its plan, or none. -/
theorem entries_performWith (ledger : Ledger) (sources : Sources) (op : Operation) (b : Book) :
    ((ledger.performWith sources op).2.store b).entries = (ledger.store b).entries ∨
      op.book = b ∧ ∃ answer batch,
        op.plan ledger.policy sources (ledger.store b) = .ok (answer, batch) ∧
        ((ledger.performWith sources op).2.store b).entries =
          (ledger.store b).entries.apply batch := by
  cases answered : (ledger.performWith sources op).1 with
  | error e => exact .inl (performWith_error answered b).1
  | ok answer =>
    by_cases hb : b = op.book
    · subst hb
      obtain ⟨batch, planned, written⟩ := performWith_ok answered
      exact .inr ⟨rfl, answer, batch, planned, written⟩
    · rw [store_performWith_of_ne _ _ hb]
      exact .inl rfl

/-- What an event asks of the books: to carry out an operation, or to load the sections of a
document. -/
inductive Event.Asks : Event → Operation → Prop where
  | operate (op : Operation) : Asks (.step (.operate op)) op
  | load (g : Genesis) (b : Book) : Asks (.step (.load g)) (.loadBook b (g.extract b))
  | operation (sources : Sources) (op : Operation) : Asks (.operation sources op) op

/-- **What happens to the contents of one store.**  Nothing, or an operation on its book that the
event asks for has been worked out and its batch applied. -/
theorem entries_undergo (ledger : Ledger) (e : Event) (b : Book) :
    ((ledger.undergo e).store b).entries = (ledger.store b).entries ∨
      ∃ (sources : Sources) (op : Operation), e.Asks op ∧ op.book = b ∧ ∃ answer batch,
        op.plan ledger.policy sources (ledger.store b) = .ok (answer, batch) ∧
        ((ledger.undergo e).store b).entries = (ledger.store b).entries.apply batch := by
  cases e with
  | step s =>
    cases s with
    | operate op =>
      rcases ledger.entries_performWith ledger.sources op b with kept | ⟨here, planned⟩
      · exact .inl kept
      · exact .inr ⟨_, op, .operate op, here, planned⟩
    | load g =>
      rw [show ledger.undergo (.step (.load g)) = (ledger.load g).2 from step_load_snd ledger g]
      rcases ledger.store_load g b with kept | loaded
      · exact .inl (congrArg Store.entries kept)
      · rw [loaded]
        rcases (ledger.store b).carryOut_cases (ledger.loadPlan g b) with
          ⟨e, -, kept⟩ | ⟨u, batch, planned, -, written⟩
        · exact .inl kept
        · refine .inr ⟨ledger.sources, .loadBook b (g.extract b), .load g b, rfl, .done, batch, ?_,
            written⟩
          exact congrArg (Operation.answering · fun () => .done) planned
  | operation sources op =>
    rcases ledger.entries_performWith sources op b with kept | ⟨here, planned⟩
    · exact .inl kept
    · exact .inr ⟨sources, op, .operation sources op, here, planned⟩
  | faults c f =>
    refine .inl ?_
    by_cases hb : b = c
    · subst hb
      rw [undergo, store_withStore_self]
    · rw [undergo, store_withStore_of_ne _ hb]

/-! ## Histories, event by event -/

/-- The entries of all stores are short enough. -/
def Within (limit : Nat) (ledger : Ledger) : Prop := ∀ b, (ledger.store b).entries.Within limit

instance (limit : Nat) (ledger : Ledger) : Decidable (ledger.Within limit) :=
  decidable_of_iff (∀ b ∈ Book.all, (ledger.store b).entries.Within limit)
    ⟨fun h b => h b b.mem_all, fun h b _ => h b⟩

/-- No store has an entry. -/
def Blank (ledger : Ledger) : Prop := ∀ b, (ledger.store b).entries = .empty

theorem blank_inMemory (policy : Policy) : (inMemory policy).Blank := by
  intro b
  cases b <;> rfl

/-- What every event of a history keeps is kept by the history. -/
theorem history_induction {P : Ledger → Prop} {ledger : Ledger} {events : List Event}
    (event : ∀ front e, front ++ [e] <+: events → P (ledger.history front) →
      P ((ledger.history front).undergo e))
    (h : P ledger) : P (ledger.history events) := by
  induction events generalizing ledger with
  | nil => exact h
  | cons e events ih =>
    refine ih (fun front e' within kept => ?_) (event [] e ⟨events, rfl⟩ h)
    exact event (e :: front) e' (List.cons_prefix_cons.2 ⟨rfl, within⟩) kept

/-- **What is true of the contents of each store stays true**, if it does whenever an operation that
the history asks for has been worked out and its batch is applied. -/
theorem entries_history {P : Book → Entries → Prop} {ledger : Ledger} {events : List Event}
    (start : ∀ b, P b (ledger.store b).entries)
    (plan : ∀ front e, front ++ [e] <+: events → ∀ op, e.Asks op → ∀ sources answer batch,
      op.plan ledger.policy sources ((ledger.history front).store op.book) = .ok (answer, batch) →
      ((ledger.history (front ++ [e])).store op.book).entries =
        ((ledger.history front).store op.book).entries.apply batch →
      P op.book ((ledger.history front).store op.book).entries →
      P op.book (((ledger.history front).store op.book).entries.apply batch)) :
    ∀ b, P b ((ledger.history events).store b).entries := by
  refine history_induction (P := fun l => ∀ b, P b (l.store b).entries)
    (fun front e happens kept b => ?_) start
  have here : (ledger.history front).undergo e = ledger.history (front ++ [e]) := by
    rw [history_append]
    rfl
  rcases (ledger.history front).entries_undergo e b with
    same | ⟨sources, op, asked, rfl, answer, batch, planned, written⟩
  · rw [same]
    exact kept b
  · rw [policy_history] at planned
    rw [here] at written ⊢
    rw [written]
    exact plan front e happens op asked sources answer batch planned written (kept op.book)

end Ledger

end PublicFunds
