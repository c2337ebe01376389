import PublicFunds.Ledger.Question
import PublicFunds.Proofs.Ledger.Dialogue
import PublicFunds.Proofs.Store.Change

/-!
# Histories

A history is what happens to a ledger one after the other: steps are taken, operations are carried
out with records of other books that come from elsewhere, and what goes wrong in a store from then
on changes.  A step that is refused is part of a history like any other, and so is one whose write
fails.

Everything that a step does, it does to the stores by changes of one store each.  So a property of
the contents of a store that every change keeps is kept by every history (`Ledger.history_keeps`),
and whoever wants to prove one only looks at what an operation has worked out.

* `Ledger.Event`, `Ledger.history`: what happens, and the ledger after it.
* `Ledger.performWith_snd`, `Ledger.loadBook_snd`: an operation and a section change one store.
* `Ledger.performWith_ok`, `Ledger.performWith_error`: a success is a plan, a failure is nothing.
* `Ledger.history_keeps`, `Ledger.forall_store_history`: what every change of one store keeps is kept
  by every history.
-/

namespace PublicFunds

namespace Ledger

/-- Something that happens to a ledger. -/
inductive Event where
  /-- A step is taken. -/
  | step (s : Step)
  /-- An operation is carried out that looks up records of other books in some sources. -/
  | operation (sources : Sources) (op : Operation)
  /-- From now on a store meets with other faults. -/
  | faults (b : Book) (faults : Store.Faults)

/-- The ledger after something has happened. -/
def undergo (ledger : Ledger) : Event → Ledger
  | .step s => (ledger.step s).2
  | .operation sources op => (ledger.performWith sources op).2
  | .faults b faults => ledger.withStore b { ledger.store b with faults }

/-- The ledger after some things have happened in a row. -/
def history (ledger : Ledger) (events : List Event) : Ledger := events.foldl undergo ledger

@[simp] theorem history_nil (ledger : Ledger) : ledger.history [] = ledger := rfl

@[simp] theorem history_cons (ledger : Ledger) (e : Event) (events : List Event) :
    ledger.history (e :: events) = (ledger.undergo e).history events := rfl

theorem history_append (ledger : Ledger) (first second : List Event) :
    ledger.history (first ++ second) = (ledger.history first).history second := by
  simp [history, List.foldl_append]

/-- A run is a history in which only steps happen. -/
theorem history_map_step (ledger : Ledger) (steps : List Step) :
    ledger.history (steps.map .step) = ledger.run steps := by
  induction steps generalizing ledger with
  | nil => rfl
  | cons s steps ih =>
    rw [List.map_cons, history_cons, run_cons]
    exact ih _

/-! ## What an operation leaves in the stores -/

/-- The ledger after an operation has the store of one book changed by the plan of the operation. -/
theorem performWith_snd (ledger : Ledger) (sources : Sources) (op : Operation) :
    (ledger.performWith sources op).2 =
      ledger.withStore op.book ((ledger.store op.book).carryOut
        (op.plan ledger.policy sources (ledger.store op.book))).2 := by
  unfold performWith
  rw [op.hold_dialogue]
  split
  · next h => rw [h]
  · next h => rw [h]

/-- What an operation answers is what its plan comes to. -/
theorem performWith_fst (ledger : Ledger) (sources : Sources) (op : Operation) :
    (ledger.performWith sources op).1 =
      (((ledger.store op.book).carryOut
        (op.plan ledger.policy sources (ledger.store op.book))).1).mapError .refused := by
  unfold performWith
  rw [op.hold_dialogue]
  split
  · next h =>
    rw [h]
    rfl
  · next h =>
    rw [h]
    rfl

@[simp] theorem store_performWith (ledger : Ledger) (sources : Sources) (op : Operation) :
    (ledger.performWith sources op).2.store op.book =
      ((ledger.store op.book).carryOut
        (op.plan ledger.policy sources (ledger.store op.book))).2 := by
  rw [performWith_snd, store_withStore_self]

/-- An operation leaves the other books alone. -/
theorem store_performWith_of_ne (ledger : Ledger) (sources : Sources) {op : Operation} {b : Book}
    (h : b ≠ op.book) : (ledger.performWith sources op).2.store b = ledger.store b := by
  rw [performWith_snd, store_withStore_of_ne _ h]

/-- An operation that succeeds has been worked out, and its batch has been applied. -/
theorem performWith_ok {ledger : Ledger} {sources : Sources} {op : Operation} {answer : Outcome}
    (h : (ledger.performWith sources op).1 = .ok answer) :
    ∃ batch, op.plan ledger.policy sources (ledger.store op.book) = .ok (answer, batch) ∧
      ((ledger.performWith sources op).2.store op.book).entries =
        (ledger.store op.book).entries.apply batch := by
  rw [performWith_fst] at h
  rw [store_performWith]
  rcases (ledger.store op.book).carryOut_cases
    (op.plan ledger.policy sources (ledger.store op.book)) with
    ⟨e, failed, -⟩ | ⟨answer', batch, planned, done, written⟩
  · rw [failed] at h
    cases h
  · rw [done] at h
    cases h
    exact ⟨batch, planned, written⟩

/-- An operation that fails leaves every store as it was, and its file too, if that is not its own
scratch file. -/
theorem performWith_error {ledger : Ledger} {sources : Sources} {op : Operation} {e : LedgerError}
    (h : (ledger.performWith sources op).1 = .error e) (b : Book) :
    ((ledger.performWith sources op).2.store b).entries = (ledger.store b).entries ∧
      ((ledger.store b).Apart →
        ((ledger.performWith sources op).2.store b).file? = (ledger.store b).file?) := by
  by_cases hb : b = op.book
  · subst hb
    rw [performWith_fst] at h
    rw [store_performWith]
    cases failed : ((ledger.store op.book).carryOut
        (op.plan ledger.policy sources (ledger.store op.book))).1 with
    | error _ => exact Store.carryOut_error failed
    | ok _ =>
      rw [failed] at h
      cases h
  · rw [store_performWith_of_ne _ _ hb]
    exact ⟨rfl, fun _ => rfl⟩

/-- A store in the place of itself is nothing new. -/
@[simp] theorem withStore_store (ledger : Ledger) (b : Book) :
    ledger.withStore b (ledger.store b) = ledger := by
  cases b <;> rfl

/-- What is true of every store stays so if one of them is replaced. -/
theorem forall_withStore {P : Store → Prop} {ledger : Ledger} (h : ∀ c, P (ledger.store c))
    {b : Book} {store : Store} (here : P store) (c : Book) :
    P ((ledger.withStore b store).store c) := by
  by_cases hc : c = b
  · rwa [hc, store_withStore_self]
  · rw [store_withStore_of_ne _ hc]
    exact h c

/-- What is refused leaves the ledger as it is. -/
theorem performWith_of_error {ledger : Ledger} {sources : Sources} {op : Operation}
    {e : RecordError} (h : op.plan ledger.policy sources (ledger.store op.book) = .error e) :
    ledger.performWith sources op = (.error (.refused e), ledger) := by
  unfold performWith
  rw [op.hold_dialogue, h, Store.carryOut]
  simp only [withStore_store]

/-- An answer for which nothing is written leaves the ledger as it is. -/
theorem performWith_of_nil {ledger : Ledger} {sources : Sources} {op : Operation}
    {answer : Outcome}
    (h : op.plan ledger.policy sources (ledger.store op.book) = .ok (answer, [])) :
    ledger.performWith sources op = (.ok answer, ledger) := by
  unfold performWith
  rw [op.hold_dialogue, h, Store.carryOut, Store.commit]
  simp only [if_true, withStore_store]

@[simp] theorem policy_performWith (ledger : Ledger) (sources : Sources) (op : Operation) :
    (ledger.performWith sources op).2.policy = ledger.policy := by
  rw [performWith_snd, policy_withStore]

/-- An operation whose plan is a change of its book leaves what the change leaves there. -/
theorem store_perform_of_answering {α : Type} {ledger : Ledger} (op : Operation) {plan : Plan α}
    {outcome : α → Outcome}
    (h : op.plan ledger.policy ledger.sources (ledger.store op.book) =
      Operation.answering plan outcome) :
    (ledger.perform op).2.store op.book = ((ledger.store op.book).carryOut plan).2 := by
  rw [perform, store_performWith, h, Operation.carryOut_answering]

/-! ## What loading a section leaves in the stores -/

theorem loadBook_snd (ledger : Ledger) (g : Genesis) (b : Book) :
    (ledger.loadBook g b).2 =
      ledger.withStore b ((ledger.store b).carryOut
        (b.load ledger.policy.addresses (ledger.store b) (g.extract b))).2 := by
  unfold loadBook
  rw [b.hold_loading]
  split
  · next h => rw [h]
  · next h => rw [h]

theorem loadBook_fst (ledger : Ledger) (g : Genesis) (b : Book) :
    (ledger.loadBook g b).1 =
      (((ledger.store b).carryOut
        (b.load ledger.policy.addresses (ledger.store b) (g.extract b))).1).mapError (.book b) := by
  unfold loadBook
  rw [b.hold_loading]
  split
  · next h =>
    rw [h]
    rfl
  · next h =>
    rw [h]
    rfl

@[simp] theorem policy_loadBook (ledger : Ledger) (g : Genesis) (b : Book) :
    (ledger.loadBook g b).2.policy = ledger.policy := by
  rw [loadBook_snd, policy_withStore]

/-- Loading some sections keeps what loading each of them keeps, also if one is refused. -/
theorem loadBooks_keeps {P : Ledger → Prop} {g : Genesis}
    (kept : ∀ ledger b, P ledger → P (ledger.loadBook g b).2) (books : List Book) :
    ∀ ledger, P ledger → P (ledger.loadBooks g books).2 := by
  induction books with
  | nil => exact fun _ h => h
  | cons b rest ih =>
    intro ledger h
    have hb := kept ledger b h
    unfold loadBooks
    rcases hl : ledger.loadBook g b with ⟨result, after⟩
    rw [hl] at hb
    cases result with
    | error e => exact hb
    | ok u => exact ih after hb

/-- Loading a document keeps what loading each of its sections keeps. -/
theorem load_keeps {P : Ledger → Prop} {g : Genesis}
    (kept : ∀ ledger b, P ledger → P (ledger.loadBook g b).2) (ledger : Ledger) (h : P ledger) :
    P (ledger.load g).2 := by
  unfold load
  split
  · exact h
  · exact loadBooks_keeps kept Book.all ledger h

/-- The ledger after a document has been loaded as a step. -/
theorem step_load_snd (ledger : Ledger) (g : Genesis) :
    (ledger.step (.load g)).2 = (ledger.load g).2 := by
  unfold step
  simp only
  split
  · next h => rw [h]
  · next h => rw [h]

/-- What loading a document as a step answers. -/
theorem step_load_fst (ledger : Ledger) (g : Genesis) :
    (ledger.step (.load g)).1 = (ledger.load g).1.map fun () => .done := by
  unfold step
  simp only
  split
  · next h =>
    rw [h]
    rfl
  · next h =>
    rw [h]
    rfl

/-! ## What every history keeps -/

/-- What operations, sections and new faults keep is kept by every history. -/
theorem history_keeps {P : Ledger → Prop}
    (operation : ∀ ledger sources op, P ledger → P (ledger.performWith sources op).2)
    (section' : ∀ ledger g b, P ledger → P (ledger.loadBook g b).2)
    (faults : ∀ ledger b f, P ledger → P (ledger.withStore b { ledger.store b with faults := f }))
    (ledger : Ledger) (events : List Event) (h : P ledger) : P (ledger.history events) := by
  induction events generalizing ledger with
  | nil => exact h
  | cons e events ih =>
    rw [history_cons]
    refine ih _ ?_
    cases e with
    | step s =>
      cases s with
      | operate op => exact operation ledger ledger.sources op h
      | load g =>
        show P (ledger.step (.load g)).2
        rw [step_load_snd]
        exact load_keeps (fun l b => section' l g b) ledger h
    | operation sources op => exact operation ledger sources op h
    | faults b f => exact faults ledger b f h

/-- What a change of a store keeps is kept in all stores by every history, if it is not about
faults. -/
theorem forall_store_history {P : Store → Prop}
    (change : ∀ {α : Type} (store : Store) (plan : Plan α), P store → P (store.carryOut plan).2)
    (faults : ∀ (store : Store) (f : Store.Faults), P store → P { store with faults := f })
    {ledger : Ledger} (events : List Event) (h : ∀ b, P (ledger.store b)) (b : Book) :
    P ((ledger.history events).store b) :=
  history_keeps (P := fun l => ∀ b, P (l.store b))
    (fun l sources op h => by
      rw [performWith_snd]
      exact forall_withStore h (change _ _ (h op.book)))
    (fun l g b h => by
      rw [loadBook_snd]
      exact forall_withStore h (change _ _ (h b)))
    (fun _ b f h => forall_withStore h (faults _ f (h b))) ledger events h b

/-- The policy of a ledger never changes. -/
@[simp] theorem policy_history (ledger : Ledger) (events : List Event) :
    (ledger.history events).policy = ledger.policy :=
  history_keeps (P := fun l => l.policy = ledger.policy)
    (fun l sources op h => (l.policy_performWith sources op).trans h)
    (fun l g b h => (l.policy_loadBook g b).trans h)
    (fun l b _ h => (l.policy_withStore b _).trans h) ledger events rfl

end Ledger

end PublicFunds
