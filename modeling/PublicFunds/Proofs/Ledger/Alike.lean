import PublicFunds.Proofs.Ledger.Change
import PublicFunds.Proofs.Register.Alike

/-!
# Ledgers that cannot be told apart

Two ledgers with one policy whose stores are alike answer every question alike.  Whatever happens to
both of them, they answer it alike and remain alike.  So nobody who only sees answers can ever find
out which of the two he has.

* `Ledger.Alike`: the same up to zeros for last ids.
* `Ledger.answer`: what an event answers.
* `Ledger.Alike.answer`, `Ledger.Alike.ask`: the answers are the same.
* `Ledger.Alike.history`: the ledgers remain alike.
-/

namespace PublicFunds

/-! ## Books -/

theorem Book.records_ne_counter (b : Book) : b.register.records ≠ b.register.counter := by
  cases b <;> decide

theorem Budget.enter_alike {s t : Store} (h : register.Alike s t) (format : AddressFormat)
    (b : Budget) : Budget.enter format s b = Budget.enter format t b := by
  rw [Budget.enter, Budget.enter, h.add]

theorem Procurement.enter_alike {s t : Store} (h : register.Alike s t) (format : AddressFormat)
    (budgets : BudgetSource) (p : Procurement) :
    Procurement.enter format s budgets p = Procurement.enter format t budgets p := by
  rw [Procurement.enter, Procurement.enter, h.add]

theorem Delegation.deactivate_alike {s t : Store} (h : register.Alike s t) (id : RecordId) :
    deactivate s id = deactivate t id := by
  rw [deactivate, deactivate, h.get]

namespace Disbursement

variable {s t : Store}

/-- Totals are not kept where the last id is. -/
theorem totals_ne_counter (rest : Bytes) : totals.region :: rest ≠ [register.counter] :=
  fun same => absurd (List.cons.inj same).1 (by decide)

theorem total_alike (h : register.Alike s t) (p : RecordId) : total s p = total t p := by
  rw [total, total, Tally.find_alike h.stores totals_ne_counter]

theorem enter_alike (h : register.Alike s t) (format : AddressFormat)
    (procurements : ProcurementSource) (d : Disbursement) :
    enter format s procurements d = enter format t procurements d := by
  have same : ∀ p d, enterFor s p d = enterFor t p d := by
    intro p d
    rw [enterFor, enterFor, total_alike h, h.add]
  rw [enter, enter]
  simp only [same]

theorem extract_alike (h : register.Alike s t) : extract s = extract t := by
  rw [extract, extract, h.extract, Tally.entries_alike h.stores totals_ne_counter]

theorem verify_alike (h : register.Alike s t) : verify s = verify t := by
  rw [verify, verify, h.all, Tally.entries_alike h.stores totals_ne_counter]

end Disbursement

/-- What a book exports is the same in stores that are alike. -/
theorem Book.extract_alike {b : Book} {s t : Store} (h : b.register.Alike s t) :
    b.extract s = b.extract t := by
  cases b with
  | scorecards => exact Register.Alike.extract h
  | budgets => exact Register.Alike.extract h
  | procurements => exact Register.Alike.extract h
  | disbursements => exact Disbursement.extract_alike h
  | delegations => exact Register.Alike.extract h

/-- An operation is worked out alike in stores that are alike. -/
theorem Operation.plan_alike {op : Operation} {s t : Store} (h : op.book.register.Alike s t)
    (policy : Policy) (sources : Sources) :
    op.plan policy sources s = op.plan policy sources t := by
  cases op with
  | rate card =>
    exact congrArg (answering · _)
      (Register.Alike.enter (r := Scorecard.register) h policy.addresses card _)
  | enterBudget b =>
    exact congrArg (answering · _) (Budget.enter_alike h policy.addresses b)
  | advanceBudget id next =>
    exact congrArg (answering · _)
      (Register.Alike.advance (r := Budget.register) h policy sources.scores id next)
  | endorseBudget id approval contract =>
    exact congrArg (answering · _)
      (Register.Alike.endorse (r := Budget.register) h policy sources.scores id approval contract)
  | enterProcurement p =>
    exact congrArg (answering · _) (Procurement.enter_alike h policy.addresses sources.budgets p)
  | advanceProcurement id next =>
    exact congrArg (answering · _)
      (Register.Alike.advance (r := Procurement.register) h policy sources.scores id next)
  | endorseProcurement id approval contract =>
    exact congrArg (answering · _)
      (Register.Alike.endorse (r := Procurement.register) h policy sources.scores id approval
        contract)
  | enterDisbursement d =>
    exact congrArg (answering · _)
      (Disbursement.enter_alike h policy.addresses sources.procurements d)
  | advanceDisbursement id next =>
    exact congrArg (answering · _)
      (Register.Alike.advance (r := Disbursement.register) h policy sources.scores id next)
  | endorseDisbursement id approval contract =>
    exact congrArg (answering · _)
      (Register.Alike.endorse (r := Disbursement.register) h policy sources.scores id approval
        contract)
  | delegate d =>
    exact congrArg (answering · _)
      (Register.Alike.enter (r := Delegation.register) h policy.addresses d _)
  | deactivate id =>
    exact congrArg (answering · _) (Delegation.deactivate_alike h id)
  | loadBook b x =>
    exact congrArg (fun plan : Plan Unit => answering plan fun () => .done)
      (b.load_congr policy.addresses (Register.Alike.isEmpty h) x)

namespace Ledger

/-- Ledgers with one policy whose stores are alike. -/
structure Alike (l m : Ledger) : Prop where
  policy : l.policy = m.policy
  stores : ∀ b : Book, Store.Alike [b.register.counter] (l.store b) (m.store b)

/-- What an event answers. -/
def answer (ledger : Ledger) : Event → Except LedgerError Outcome
  | .step s => (ledger.step s).1
  | .operation sources op => (ledger.performWith sources op).1
  | .faults _ _ => .ok .done

namespace Alike

variable {l m : Ledger}

theorem book (h : l.Alike m) (b : Book) : b.register.Alike (l.store b) (m.store b) :=
  ⟨h.stores b, b.records_ne_counter⟩

/-! ## Questions -/

theorem extractBook (h : l.Alike m) (b : Book) : l.extractBook b = m.extractBook b := by
  rw [Ledger.extractBook, Ledger.extractBook, Book.extract_alike (h.book b)]

theorem extract (h : l.Alike m) : l.extract = m.extract := by
  simp only [Ledger.extract, h.extractBook]

/-- **Questions are answered alike.** -/
theorem ask (h : l.Alike m) (q : Question) : l.ask q = m.ask q := by
  have disbursements : Disbursement.register.Alike l.disbursements m.disbursements :=
    h.book .disbursements
  cases q with
  | get b id => exact congrArg (answering · _) ((h.book b).get id)
  | find b id => exact congrArg (answering · _) ((h.book b).find id)
  | contains b id => exact congrArg (answering · _) ((h.book b).contains id)
  | getByPair b pair => exact congrArg (answering · _) ((h.book b).getByPair pair)
  | findByPair b pair => exact congrArg (answering · _) ((h.book b).findByPair pair)
  | walk b limit => exact congrArg (answering · _) ((h.book b).walkList limit)
  | total p => exact congrArg (answering · _) (Disbursement.total_alike disbursements p)
  | verifyTotals => simp only [Ledger.ask, Disbursement.verify_alike disbursements]
  | verify => simp only [Ledger.ask, Ledger.verify, Disbursement.verify_alike disbursements]
  | extract => simp only [Ledger.ask, h.extract]

/-! ## Changes -/

/-- The store of one book is changed. -/
theorem withStore (h : l.Alike m) {b : Book} {s t : Store}
    (same : Store.Alike [b.register.counter] s t) :
    (l.withStore b s).Alike (m.withStore b t) := by
  refine ⟨by rw [policy_withStore, policy_withStore, h.policy], fun c => ?_⟩
  by_cases hc : c = b
  · subst hc
    rw [store_withStore_self, store_withStore_self]
    exact same
  · rw [store_withStore_of_ne _ hc, store_withStore_of_ne _ hc]
    exact h.stores c

theorem performWith (h : l.Alike m) (sources : Sources) (op : Operation) :
    (l.performWith sources op).1 = (m.performWith sources op).1 ∧
      (l.performWith sources op).2.Alike (m.performWith sources op).2 := by
  have plan := Operation.plan_alike (h.book op.book) m.policy sources
  obtain ⟨same, alike⟩ :=
    (h.stores op.book).carryOut (op.plan m.policy sources (m.store op.book))
  rw [performWith_fst, performWith_fst, performWith_snd, performWith_snd, h.policy, plan, same]
  exact ⟨rfl, h.withStore alike⟩

theorem loadBook (h : l.Alike m) (g : Genesis) (b : Book) :
    (l.loadBook g b).1 = (m.loadBook g b).1 ∧ (l.loadBook g b).2.Alike (m.loadBook g b).2 := by
  have plan := b.load_congr m.policy.addresses (h.book b).isEmpty (g.extract b)
  obtain ⟨same, alike⟩ :=
    (h.stores b).carryOut (b.load m.policy.addresses (m.store b) (g.extract b))
  rw [loadBook_fst, loadBook_fst, loadBook_snd, loadBook_snd, h.policy, plan, same]
  exact ⟨rfl, h.withStore alike⟩

theorem loadBooks (h : l.Alike m) (g : Genesis) (books : List Book) :
    (l.loadBooks g books).1 = (m.loadBooks g books).1 ∧
      (l.loadBooks g books).2.Alike (m.loadBooks g books).2 := by
  induction books generalizing l m with
  | nil => exact ⟨rfl, h⟩
  | cons b rest ih =>
    obtain ⟨same, alike⟩ := h.loadBook g b
    cases hanswer : (m.loadBook g b).1 with
    | error e =>
      rw [loadBooks_cons_of_error hanswer, loadBooks_cons_of_error (same.trans hanswer)]
      exact ⟨rfl, alike⟩
    | ok u =>
      rw [loadBooks_cons_of_ok hanswer, loadBooks_cons_of_ok (same.trans hanswer)]
      exact ih alike

theorem load (h : l.Alike m) (g : Genesis) :
    (l.load g).1 = (m.load g).1 ∧ (l.load g).2.Alike (m.load g).2 := by
  rw [Ledger.load, Ledger.load, h.policy]
  split
  · exact ⟨rfl, h⟩
  · exact h.loadBooks g Book.all

/-- Records of other books are looked up alike. -/
theorem sources (h : l.Alike m) : l.sources = m.sources := by
  have scores : Scorecard.source l.scorecards = Scorecard.source m.scorecards :=
    funext (h.book .scorecards).find
  have budgets : Budget.source l.budgets = Budget.source m.budgets :=
    funext (h.book .budgets).find
  have procurements : Procurement.source l.procurements = Procurement.source m.procurements :=
    funext (h.book .procurements).find
  rw [Ledger.sources, Ledger.sources, scores, budgets, procurements]

theorem step (h : l.Alike m) (s : Step) :
    (l.step s).1 = (m.step s).1 ∧ (l.step s).2.Alike (m.step s).2 := by
  cases s with
  | operate op =>
    have performed := h.performWith l.sources op
    show (l.performWith l.sources op).1 = (m.performWith m.sources op).1 ∧
      (l.performWith l.sources op).2.Alike (m.performWith m.sources op).2
    rw [← h.sources]
    exact performed
  | load g =>
    obtain ⟨same, alike⟩ := h.load g
    rw [step_load_fst, step_load_fst, step_load_snd, step_load_snd, same]
    exact ⟨rfl, alike⟩

/-- **Events are answered alike.** -/
theorem answer (h : l.Alike m) (e : Event) : l.answer e = m.answer e := by
  cases e with
  | step s => exact (h.step s).1
  | operation sources op => exact (h.performWith sources op).1
  | faults b f => rfl

/-- Ledgers remain alike when the same happens to both. -/
theorem undergo (h : l.Alike m) (e : Event) : (l.undergo e).Alike (m.undergo e) := by
  cases e with
  | step s => exact (h.step s).2
  | operation sources op => exact (h.performWith sources op).2
  | faults b f => exact h.withStore ((h.stores b).withFaults f)

theorem history (h : l.Alike m) (events : List Event) :
    (l.history events).Alike (m.history events) := by
  induction events generalizing l m with
  | nil => exact h
  | cons e events ih => exact ih (h.undergo e)

end Alike

end Ledger

end PublicFunds
