import PublicFunds.Proofs.Ledger.Orderly
import PublicFunds.Proofs.Ledger.TornLoad

/-!
# What operations write, and what stays

Every operation that does not load anything writes at most one record to its book.  It gives out an
id if what is entered has none, and the id that it gives out is what it answers.  So no record ever
leaves a book, and no id that was given out is forgotten: what a book holds at some time outlives
what it held at any time before.

* `Book.Again`: which record may take the place of which.
* `Operation.NeedsId`: an operation that gives out an id.
* `Operation.writes`: what an operation writes.
* `Ledger.Orderly.outlives_undergo`, `Ledger.Blank.outlives`: what stays after one event, and after
  many.
-/

namespace PublicFunds

open Register

/-- Which record may take the place of which in a book.  Records with a lifecycle are revised. -/
def Book.Again : (b : Book) → b.Item → b.Item → Prop
  | .scorecards => fun _ _ => True
  | .budgets => fun x y : Budget => Governed.Revises x y
  | .procurements => fun x y : Procurement => Governed.Revises x y
  | .disbursements => fun x y : Disbursement => Governed.Revises x y
  | .delegations => fun _ _ => True

/-- An operation enters a record that has no id yet. -/
def Operation.NeedsId (store : Store) : Operation → Prop
  | .rate card => Scorecard.register.NeedsId store card
  | .enterBudget _ => True
  | .enterProcurement _ => True
  | .enterDisbursement _ => True
  | .delegate d => Delegation.register.NeedsId store d
  | _ => False

namespace Operation

variable {store : Store} {batch : Batch} {answer : Outcome}

/-- A revision is a write that needs no id. -/
theorem writes_of_revises {ρ σ : Type} [Record ρ] [Vetted ρ] [Lifecycle σ] [DecidableEq σ]
    [Governed ρ σ] [FaithfulRecord ρ] {r : Register ρ} {format : AddressFormat} {c : Contents ρ}
    (keeps : r.Keeps format store.entries c) (within : store.entries.Within (Bytes.reach 8))
    (revised : r.RevisesIn format store batch) {op : Operation}
    (needless : ¬ op.NeedsId store.mended) :
    ∃ new c', c.Writes Governed.Revises new c' ∧ (new.isSome = true ↔ op.NeedsId store.mended) ∧
      (∀ id ∈ new, answer = .entered id) ∧ r.Keeps format (store.entries.apply batch) c' := by
  obtain ⟨c', writes, after⟩ := keeps.revise_writes within revised
  exact ⟨none, c', writes, by simp [needless], by simp, after⟩

/-- **What an operation writes** that does not load anything.  It gives out an id exactly if it
needs one, and then the id is its answer. -/
theorem writes {policy : Policy} {sources : Sources} {op : Operation}
    (orderly : op.book.Orderly policy.addresses store.entries)
    (within : store.entries.Within (Bytes.reach 8)) {c : Contents op.book.Item}
    (keeps : op.book.register.Keeps policy.addresses store.entries c) (loads : ¬ op.Loads)
    (planned : op.plan policy sources store = .ok (answer, batch)) :
    ∃ new c', c.Writes op.book.Again new c' ∧ (new.isSome = true ↔ op.NeedsId store.mended) ∧
      (∀ id ∈ new, answer = .entered id) ∧
      op.book.register.Keeps policy.addresses (store.entries.apply batch) c' := by
  cases op with
  | rate card =>
    obtain ⟨id, rated, rfl⟩ := answering_eq_ok_iff.1 planned
    obtain ⟨c', held, given⟩ := orderly
    cases keeps.unique held within
    obtain ⟨new, c', writes, needs, answered, after, -⟩ :=
      held.enter_writes given Scorecard.hasIndex (Scorecard.spares _) rated
    exact ⟨new, c', writes, needs, fun n hn => congrArg _ (answered n hn), after⟩
  | enterBudget b =>
    have held : Budget.register.Keeps policy.addresses store.entries c := keeps
    obtain ⟨id, entered, rfl⟩ := answering_eq_ok_iff.1 planned
    obtain ⟨y, rfl, checked, added⟩ := Budget.enter_eq_ok entered
    obtain ⟨own, c', writes, after⟩ := held.add_writes (by decide) rfl checked added _
    exact ⟨_, c', writes, by simp [NeedsId], by simp [own], after⟩
  | advanceBudget id next =>
    have held : Budget.register.Keeps policy.addresses store.entries c := keeps
    obtain ⟨y, advanced, -⟩ := answering_eq_ok_iff.1 planned
    exact writes_of_revises held within (revisesIn_of_advance advanced) not_false
  | endorseBudget id approval contract =>
    have held : Budget.register.Keeps policy.addresses store.entries c := keeps
    obtain ⟨y, endorsed, -⟩ := answering_eq_ok_iff.1 planned
    exact writes_of_revises held within (revisesIn_of_endorse endorsed) not_false
  | enterProcurement p =>
    have held : Procurement.register.Keeps policy.addresses store.entries c := keeps
    obtain ⟨id, entered, rfl⟩ := answering_eq_ok_iff.1 planned
    obtain ⟨b, y, rfl, checked, -, added⟩ := Procurement.enter_eq_ok entered
    obtain ⟨own, c', writes, after⟩ := held.add_writes (by decide) rfl checked added _
    exact ⟨_, c', writes, by simp [NeedsId], by simp [own], after⟩
  | advanceProcurement id next =>
    have held : Procurement.register.Keeps policy.addresses store.entries c := keeps
    obtain ⟨y, advanced, -⟩ := answering_eq_ok_iff.1 planned
    exact writes_of_revises held within (revisesIn_of_advance advanced) not_false
  | endorseProcurement id approval contract =>
    have held : Procurement.register.Keeps policy.addresses store.entries c := keeps
    obtain ⟨y, endorsed, -⟩ := answering_eq_ok_iff.1 planned
    exact writes_of_revises held within (revisesIn_of_endorse endorsed) not_false
  | enterDisbursement d =>
    obtain ⟨id, entered, rfl⟩ := answering_eq_ok_iff.1 planned
    obtain ⟨c', t, held, -⟩ := orderly
    cases keeps.unique held.register within
    obtain ⟨-, p, total, y, rfl, -, own, up, -, after⟩ := held.enter within entered
    refine ⟨_, _, .next up (held.register.get?_eq_none up) own, by simp [NeedsId], ?_,
      after.register⟩
    intro id given
    rw [own, Option.some.inj given]
  | advanceDisbursement id next =>
    have held : Disbursement.register.Keeps policy.addresses store.entries c := keeps
    obtain ⟨y, advanced, -⟩ := answering_eq_ok_iff.1 planned
    exact writes_of_revises held within (revisesIn_of_advance advanced) not_false
  | endorseDisbursement id approval contract =>
    have held : Disbursement.register.Keeps policy.addresses store.entries c := keeps
    obtain ⟨y, endorsed, -⟩ := answering_eq_ok_iff.1 planned
    exact writes_of_revises held within (revisesIn_of_endorse endorsed) not_false
  | delegate d =>
    obtain ⟨id, delegated, rfl⟩ := answering_eq_ok_iff.1 planned
    obtain ⟨c', held, given⟩ := orderly
    cases keeps.unique held within
    obtain ⟨new, c', writes, needs, answered, after, -⟩ :=
      held.enter_writes given Delegation.hasIndex (Delegation.spares _ true) delegated
    exact ⟨new, c', writes, needs, fun n hn => congrArg _ (answered n hn), after⟩
  | deactivate id =>
    obtain ⟨d, given, -⟩ := answering_eq_ok_iff.1 planned
    obtain ⟨c', held, index⟩ := orderly
    cases keeps.unique held within
    obtain ⟨d, found, rfl | rfl⟩ := Delegation.deactivate_eq_ok given
    · exact ⟨none, c, .nothing, by simp [NeedsId], by simp, held⟩
    · obtain ⟨c', writes, after, -⟩ :=
        held.replace_writes index Delegation.hasIndex within (Delegation.spares _ false) found
      exact ⟨none, c', writes, by simp [NeedsId], by simp, after⟩
  | loadBook b x => exact absurd trivial loads

/-- What a book holds after an operation outlives what it held before. -/
theorem outlives {policy : Policy} {sources : Sources} {op : Operation}
    (orderly : op.book.Orderly policy.addresses store.entries)
    (within : store.entries.Within (Bytes.reach 8)) {c : Contents op.book.Item}
    (keeps : op.book.register.Keeps policy.addresses store.entries c)
    (planned : op.plan policy sources store = .ok (answer, batch)) :
    ∃ c', op.book.register.Keeps policy.addresses (store.entries.apply batch) c' ∧
      c.Outlives (Relation.ReflGen op.book.Again) c' := by
  rcases plan_eq_ok planned with ⟨-, x, loaded⟩ | ⟨loads, -⟩
  · -- only an unused book loads anything
    obtain ⟨c', after⟩ := (orderly.load loaded).keeps
    cases keeps.eq_empty_of_isEmpty (Book.exists_of_load loaded).1
    exact ⟨c', after, .of_empty c'⟩
  · obtain ⟨new, c', writes, -, -, after⟩ := writes orderly within keeps loads planned
    exact ⟨c', after, writes.outlives⟩

end Operation

namespace Ledger

/-- What a book holds after an event outlives what it held before. -/
theorem Orderly.outlives_undergo {ledger : Ledger} (h : ledger.Orderly)
    (within : ledger.Within (Bytes.reach 8)) (e : Event) {b : Book} {c : Contents b.Item}
    (keeps : b.register.Keeps ledger.policy.addresses (ledger.store b).entries c) :
    ∃ c', b.register.Keeps ledger.policy.addresses ((ledger.undergo e).store b).entries c' ∧
      c.Outlives (Relation.ReflGen b.Again) c' := by
  rcases ledger.entries_undergo e b with
    same | ⟨sources, op, -, rfl, answer, batch, planned, written⟩
  · rw [same]
    exact ⟨c, keeps, UInt64.le_refl _, fun _ x found => ⟨x, found, .refl⟩⟩
  · rw [written]
    exact Operation.outlives (h op.book) (within op.book) keeps planned

/-- **What a book holds outlives what it held at any time before.** -/
theorem Blank.outlives {start : Ledger} (blank : start.Blank) {front events : List Event}
    (earlier : front <+: events)
    (within : ∀ front, front <+: events → (start.history front).Within (Bytes.reach 8))
    {b : Book} {c : Contents b.Item}
    (keeps : b.register.Keeps start.policy.addresses
      ((start.history front).store b).entries c) :
    ∃ c', b.register.Keeps start.policy.addresses ((start.history events).store b).entries c' ∧
      c.Outlives (Relation.ReflTransGen b.Again) c' := by
  obtain ⟨rest, rfl⟩ := earlier
  rw [history_append]
  refine history_induction (P := fun l => ∃ c', b.register.Keeps start.policy.addresses
    (l.store b).entries c' ∧ c.Outlives (Relation.ReflTransGen b.Again) c')
    (fun middle e happens kept => ?_) ⟨c, keeps, .refl c⟩
  obtain ⟨c', keeps', outlives⟩ := kept
  rw [← history_append] at keeps' ⊢
  have reached : front ++ middle <+: front ++ rest :=
    List.prefix_append_right_inj front |>.2 ((List.prefix_append middle [e]).trans happens)
  have orderly : (start.history (front ++ middle)).Orderly :=
    blank.orderly_history fun before happened => within before (happened.trans reached)
  rw [← start.policy_history (front ++ middle)] at keeps' ⊢
  obtain ⟨c'', keeps'', next⟩ := orderly.outlives_undergo (within _ reached) e keeps'
  exact ⟨c'', keeps'', outlives.tail next⟩

end Ledger

end PublicFunds
