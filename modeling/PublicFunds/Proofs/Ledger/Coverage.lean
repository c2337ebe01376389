import Mathlib.Control.Monad.Basic
import Mathlib.Data.List.Infix
import PublicFunds.Proofs.Ledger.Backing

/-!
# A ledger stays covered

If a ledger starts unused, or with a document that is covered, then it is covered after every event
that does not load anything.  Scores may be looked up anywhere, but budgets and procurements have to
be looked up in the ledger itself.

The property is about what is stored.  A store with faults may not say what is stored, so the books
are read as if nothing went wrong.  And lengths are stored in eight bytes, so what is stored is
followed as long as no key and no value is too long for this.

* `Genesis.Covered`, `Ledger.Covered`: documents and ledgers with covered records.
* `Ledger.Begun`, `Event.Inward`: how a ledger begins, and what may happen to it.
* `Ledger.covered_history`: a ledger stays covered.
-/

namespace PublicFunds

/-- A document whose records are covered. -/
def Genesis.Covered (g : Genesis) : Prop :=
  PublicFunds.Covered g.budgets.records g.procurements.records g.disbursements.records

namespace Ledger

/-- The records that are stored in a ledger are covered. -/
def Covered (ledger : Ledger) : Prop :=
  ∃ bs ps ds, Budget.register.all ledger.budgets.mended = .ok bs ∧
    Procurement.register.all ledger.procurements.mended = .ok ps ∧
    Disbursement.register.all ledger.disbursements.mended = .ok ds ∧ PublicFunds.Covered bs ps ds

/-- How a ledger begins: unused, or with a document that is covered. -/
inductive Begun : Ledger → Prop where
  | unused {ledger : Ledger} (blank : ledger.Blank) : Begun ledger
  | loaded {unused ledger : Ledger} {g : Genesis} (blank : unused.Blank) (covered : g.Covered)
      (loaded : unused.load g = (.ok (), ledger)) : Begun ledger

/-- An event that loads nothing and looks budgets and procurements up in the ledger itself. -/
def Event.Inward (ledger : Ledger) : Event → Prop
  | .step (.operate op) => ¬ op.Loads
  | .step (.load _) => False
  | .operation sources op =>
    ¬ op.Loads ∧ sources.budgets = ledger.sources.budgets ∧
      sources.procurements = ledger.sources.procurements
  | .faults _ _ => True

/-- The stores of a ledger hold records that are covered. -/
def Backed (ledger : Ledger) : Prop :=
  PublicFunds.Backed ledger.policy.addresses (ledger.store .budgets).entries
    (ledger.store .procurements).entries (ledger.store .disbursements).entries

namespace Backed

variable {ledger : Ledger}

/-- What is backed can be seen to be covered. -/
theorem covered (h : ledger.Backed) (within : ledger.Within (Bytes.reach 8)) : ledger.Covered := by
  obtain ⟨bs, ps, ds, t, hbs, hps, hds, covered⟩ := h
  refine ⟨_, _, _, ?_, ?_, ?_, covered⟩
  · exact Register.Keeps.all hbs (within .budgets) rfl
  · exact Register.Keeps.all hps (within .procurements) rfl
  · exact Register.Keeps.all hds.register
      (within .disbursements) rfl

theorem of_blank (h : ledger.Blank) : ledger.Backed := by
  rw [Backed, h, h, h]
  exact PublicFunds.Backed.empty _

/-- A document that is covered is backed where it has been loaded. -/
theorem of_load {unused : Ledger} {g : Genesis} (blank : unused.Blank) (covered : g.Covered)
    (loaded : unused.load g = (.ok (), ledger)) : ledger.Backed := by
  have policy : ledger.policy = unused.policy := by
    have kept := unused.policy_history [.step (.load g)]
    rwa [history_cons, undergo, step_load_snd, loaded] at kept
  obtain ⟨budgets, hbudgets, budgetsThere⟩ := entries_load_of_ok loaded .budgets
  obtain ⟨procurements, hprocurements, procurementsThere⟩ := entries_load_of_ok loaded .procurements
  obtain ⟨disbursements, hdisbursements, disbursementsThere⟩ :=
    entries_load_of_ok loaded .disbursements
  rw [Backed, policy, budgetsThere, procurementsThere, disbursementsThere]
  have unusedBudgets : Budget.register.Keeps unused.policy.addresses
      (unused.store .budgets).entries .empty := blank .budgets ▸ Register.keeps_empty _ _
  have unusedProcurements : Procurement.register.Keeps unused.policy.addresses
      (unused.store .procurements).entries .empty := blank .procurements ▸ Register.keeps_empty _ _
  have unusedDisbursements : Disbursement.Keeps unused.policy.addresses
      (unused.store .disbursements).entries .empty .empty :=
    blank .disbursements ▸ Disbursement.keeps_empty _
  obtain ⟨budgetIds, -, hbs⟩ := unusedBudgets.load (by decide) hbudgets 1
  obtain ⟨procurementIds, -, hps⟩ := unusedProcurements.load (by decide) hprocurements 1
  obtain ⟨disbursementIds, -, sums, hds⟩ := unusedDisbursements.load hdisbursements
  refine ⟨_, _, _, _, hbs, hps, hds, covered.perm ?_ ?_ ?_⟩
  · exact Register.Contents.values_ofSection budgetIds
  · exact Register.Contents.values_ofSection procurementIds
  · exact Register.Contents.values_ofSection disbursementIds

/-- An operation that loads nothing and looks up what is there leaves everything backed. -/
theorem performWith (h : ledger.Backed) (within : ledger.Within (Bytes.reach 8)) {sources : Sources}
    {op : Operation} (loads : ¬ op.Loads) (budgets : sources.budgets = ledger.sources.budgets)
    (procurements : sources.procurements = ledger.sources.procurements) :
    (ledger.performWith sources op).2.Backed := by
  have others : ∀ b, b ≠ op.book → ((ledger.performWith sources op).2.store b).entries =
      (ledger.store b).entries :=
    fun b hb => congrArg Store.entries (ledger.store_performWith_of_ne sources hb)
  rw [Backed, policy_performWith]
  rcases ledger.entries_performWith sources op op.book with
    kept | ⟨-, answer, batch, planned, written⟩
  · have all : ∀ b, ((ledger.performWith sources op).2.store b).entries =
        (ledger.store b).entries := by
      intro b
      by_cases hb : b = op.book
      · rw [hb, kept]
      · exact others b hb
    rw [all, all, all]
    exact h
  · obtain ⟨-, changes⟩ := (Operation.plan_eq_ok planned).resolve_left fun l => loads l.1
    cases hb : op.book with
    | scorecards =>
      rw [others .budgets (by simp [hb]), others .procurements (by simp [hb]),
        others .disbursements (by simp [hb])]
      exact h
    | budgets =>
      rw [hb] at changes written
      rw [written, others .procurements (by simp [hb]), others .disbursements (by simp [hb])]
      exact PublicFunds.Backed.changeBudgets h (within .budgets) changes
    | procurements =>
      rw [hb] at changes written
      rw [written, others .budgets (by simp [hb]), others .disbursements (by simp [hb])]
      exact PublicFunds.Backed.changeProcurements h (within .procurements) (within .budgets) budgets
        changes
    | disbursements =>
      rw [hb] at changes written
      rw [written, others .budgets (by simp [hb]), others .procurements (by simp [hb])]
      exact PublicFunds.Backed.changeDisbursements h (within .disbursements) (within .procurements)
        procurements changes
    | delegations =>
      rw [others .budgets (by simp [hb]), others .procurements (by simp [hb]),
        others .disbursements (by simp [hb])]
      exact h

/-- What an event of the ledger itself does leaves everything backed. -/
theorem undergo (h : ledger.Backed) (within : ledger.Within (Bytes.reach 8)) {e : Event}
    (inward : e.Inward ledger) : (ledger.undergo e).Backed := by
  cases e with
  | step s =>
    cases s with
    | operate op => exact h.performWith within inward rfl rfl
    | load g => exact inward.elim
  | operation sources op => exact h.performWith within inward.1 inward.2.1 inward.2.2
  | faults b f =>
    have same :
        ∀ c, ((ledger.undergo (.faults b f)).store c).entries = (ledger.store c).entries := by
      intro c
      by_cases hc : c = b
      · subst hc
        rw [Ledger.undergo, store_withStore_self]
      · rw [Ledger.undergo, store_withStore_of_ne _ hc]
    rw [Backed, same, same, same, Ledger.undergo, policy_withStore]
    exact h

end Backed

/-- **A ledger stays covered.**  It starts unused or with a document that is covered, and nothing is
loaded afterwards.  After every history every procurement that is stored has its budget, every
disbursement its procurement, and what is disbursed for a procurement, added up exactly, is at most
its amount.  The hypothesis about lengths says that no key and no value in a store is too long for
eight bytes to say how long it is. -/
theorem covered_history {start : Ledger} (begun : start.Begun) {events : List Event}
    (inward : ∀ front e, front ++ [e] <+: events → e.Inward (start.history front))
    (within : ∀ front, front <+: events → (start.history front).Within (Bytes.reach 8)) :
    (start.history events).Covered := by
  have backed : start.Backed := by
    cases begun with
    | unused blank => exact Backed.of_blank blank
    | loaded blank covered loaded => exact Backed.of_load blank covered loaded
  have stays : (start.history events).Backed := by
    refine history_induction (fun front e happens kept => ?_) backed
    have before := within front ((List.prefix_append front [e]).trans happens)
    exact kept.undergo before (inward front e happens)
  exact stays.covered (within events List.prefix_rfl)

/-- A policy with short addresses. -/
def shortAddresses : Policy := ⟨⟨"x", 1⟩, ⟨2, 80⟩⟩

/-- Some units of a currency; none if there are too many for an amount. -/
def units (n : Nat) : Amount := (Amount.ofNat? n).getD .zero

/-- What leads to two disbursements for one procurement: the budget, the procurement, and three
attempts to disburse, the second of which is too much. -/
def roadsPaid : List Event := [
  .step (.operate (.enterBudget (.drafted "works" "2025" "roads" (units 12) "EUR" "xaa"))),
  .step (.operate (.enterProcurement (.planned 1 "A1" "works" "roads" (units 10) "EUR" "xaa"))),
  .step (.operate (.enterDisbursement (.scheduled 1 (units 7) "EUR" "xbb"))),
  .step (.operate (.enterDisbursement (.scheduled 1 (units 4) "EUR" "xbb"))),
  .step (.operate (.enterDisbursement (.scheduled 1 (units 3) "EUR" "xbb")))]

/-- Two disbursements have been entered, and they are covered. -/
theorem covered_roadsPaid :
    (Disbursement.register.all
      ((inMemory shortAddresses).history roadsPaid).disbursements).map (·.map (·.amount.toNat)) =
        .ok [7, 3] ∧
      ((inMemory shortAddresses).history roadsPaid).Covered := by
  have entered : (Disbursement.register.all
      ((inMemory shortAddresses).history roadsPaid).disbursements).map (·.map (·.amount.toNat)) =
        .ok [7, 3] := by decide +kernel
  have steps : ∀ e ∈ roadsPaid, ∃ op : Operation, e = .step (.operate op) ∧ ¬ op.Loads := by
    simp [roadsPaid, Operation.Loads]
  have short : ∀ front ∈ roadsPaid.inits,
      ((inMemory shortAddresses).history front).Within (Bytes.reach 8) := by decide +kernel
  refine ⟨entered, covered_history (.unused (blank_inMemory _)) (fun front e happens => ?_)
    fun front happens => short front ((List.mem_inits _ _).2 happens)⟩
  obtain ⟨op, rfl, loads⟩ := steps e (happens.subset (by simp))
  exact loads

end Ledger

end PublicFunds
