import Mathlib.Control.Monad.Basic
import Mathlib.Data.List.Infix
import PublicFunds.Proofs.Ledger.Alike
import PublicFunds.Proofs.Ledger.Sound
import PublicFunds.Proofs.Register.Reproduction
import PublicFunds.Proofs.Store.Reopening

/-!
# An export reproduces a ledger

Whatever happened to a ledger since it was unused, its export can be loaded into an unused ledger
with the same policy, and the two cannot be told apart from then on.  They export the same, they
answer every question alike, and they go on doing so whatever happens to both of them.

The stores need not be equal.  Where no id was ever given out, loading writes a zero down that was
not there before; and where an index was built in the course of events, it is built again from the
records.

Nothing may go wrong in the ledger at the time of its export.  What went wrong before makes no
difference, and what goes wrong afterwards goes wrong in both.

* `Book.Sound.reproduce`, `Ledger.Sound.reproduce`: sound ledgers are reproduced.
* `Ledger.reproduce_history`: what a ledger has become is reproduced.
-/

namespace PublicFunds

/-- **A book is reproduced.** -/
theorem Book.Sound.reproduce {b : Book} {format : AddressFormat} {store : Store}
    (h : b.Sound format store.entries) (within : store.entries.Within (Bytes.reach 4))
    (healthy : store.Healthy) {fresh : Store} (blank : fresh.entries = .empty)
    (well : fresh.Healthy) :
    ∃ x batch, b.extract store = .ok x ∧ b.load format fresh x = .ok ((), batch) ∧
      Entries.Alike [b.register.counter] (fresh.entries.apply batch) store.entries := by
  have short : store.entries.Within (Bytes.reach 8) := within.mono (by decide)
  cases b with
  | scorecards =>
    exact Register.SoundPaired.reproduce h within healthy Scorecard.hasIndex blank well
  | budgets => exact Register.Sound.reproduce h short healthy (by decide) blank well
  | procurements => exact Register.Sound.reproduce h short healthy (by decide) blank well
  | disbursements => exact Disbursement.Sound.reproduce h short healthy blank well
  | delegations =>
    exact Register.SoundPaired.reproduce h within healthy Delegation.hasIndex blank well

namespace Ledger

/-- A ledger is exported book by book. -/
theorem extract_of_books {ledger : Ledger} (h : ∀ b, ∃ x, ledger.extractBook b = .ok x) :
    ∃ g, ledger.extract = .ok g ∧ ∀ b, ledger.extractBook b = .ok (g.extract b) := by
  obtain ⟨scorecards, hscorecards⟩ := h .scorecards
  obtain ⟨budgets, hbudgets⟩ := h .budgets
  obtain ⟨procurements, hprocurements⟩ := h .procurements
  obtain ⟨disbursements, hdisbursements⟩ := h .disbursements
  obtain ⟨delegations, hdelegations⟩ := h .delegations
  refine ⟨⟨scorecards, budgets, procurements, disbursements, delegations⟩, ?_, fun b => ?_⟩
  · simp only [extract, hscorecards, hbudgets, hprocurements, hdisbursements, hdelegations]
  · cases b with
    | scorecards => exact hscorecards
    | budgets => exact hbudgets
    | procurements => exact hprocurements
    | disbursements => exact hdisbursements
    | delegations => exact hdelegations

/-- An unused ledger accepts what a sound one exports, and each store is reproduced. -/
theorem Sound.accepts {ledger fresh : Ledger} (h : ledger.Sound)
    (within : ledger.Within (Bytes.reach 4)) (healthy : ledger.Healthy) {g : Genesis}
    (exported : ∀ b, ledger.extractBook b = .ok (g.extract b))
    (policy : fresh.policy = ledger.policy) (blank : fresh.Blank) (well : fresh.Healthy)
    (b : Book) :
    ∃ batch, fresh.loadPlan g b = .ok ((), batch) ∧
      Entries.Alike [b.register.counter] ((fresh.store b).entries.apply batch)
        (ledger.store b).entries := by
  obtain ⟨x, batch, extracted, accepted, alike⟩ :=
    (h b).reproduce (within b) (healthy b) (blank b) (well b)
  have same := exported b
  rw [extractBook, extracted] at same
  cases Except.ok.inj same
  exact ⟨batch, by rw [loadPlan, policy, accepted], alike⟩

/-- **A sound ledger is reproduced** by its export. -/
theorem Sound.reproduce {ledger fresh : Ledger} (h : ledger.Sound)
    (within : ledger.Within (Bytes.reach 4)) (healthy : ledger.Healthy)
    (policy : fresh.policy = ledger.policy) (blank : fresh.Blank) (well : fresh.Healthy) :
    ∃ g loaded, ledger.extract = .ok g ∧ fresh.load g = (.ok (), loaded) ∧ loaded.Alike ledger := by
  have books : ∀ b, ∃ x, ledger.extractBook b = .ok x := by
    intro b
    obtain ⟨x, -, extracted, -⟩ := (h b).reproduce (within b) (healthy b) (blank b) (well b)
    exact ⟨x, by rw [extractBook, extracted]; rfl⟩
  obtain ⟨g, extracted, exported⟩ := extract_of_books books
  have accepts := fun fresh => @Sound.accepts ledger fresh h within healthy g exported
  have rehearsed : ((inMemory fresh.policy).loadBooks g Book.all).1 = .ok () := by
    refine ((healthy_inMemory _).writable.loadBooks_of_ok Book.nodup_all fun b _ => ?_).1
    obtain ⟨batch, accepted, -⟩ :=
      accepts (inMemory fresh.policy) policy (blank_inMemory _) (healthy_inMemory _) b
    exact ⟨batch, accepted⟩
  obtain ⟨done, written⟩ := well.writable.loadBooks_of_ok Book.nodup_all fun b _ =>
    (accepts fresh policy blank well b).imp fun _ h => h.1
  have loading := load_of_ok rehearsed
  refine ⟨g, (fresh.load g).2, extracted, Prod.ext (loading ▸ done) rfl, ?_, fun b => ⟨?_, ?_⟩⟩
  · rw [← step_load_snd]
    exact (fresh.policy_history [.step (.load g)]).trans policy
  · obtain ⟨batch, accepted, alike⟩ := accepts fresh policy blank well b
    rw [loading, written b b.mem_all, accepted]
    exact alike
  · exact (well.load g b).trans (healthy b).symm

/-- **What a ledger has become is reproduced.**  After any history of a ledger that started unused,
its export can be loaded into any unused ledger with its policy.  That ledger then exports the same
document.  And if the same happens to both of them, then everything that happens next and every
question is answered alike. -/
theorem reproduce_history {start : Ledger} (blank : start.Blank) {events : List Event}
    (within : ∀ front, front <+: events → (start.history front).Within (Bytes.reach 4))
    (healthy : (start.history events).Healthy) {fresh : Ledger}
    (policy : fresh.policy = start.policy) (unused : fresh.Blank) (well : fresh.Healthy) :
    ∃ g loaded, (start.history events).extract = .ok g ∧ fresh.load g = (.ok (), loaded) ∧
      loaded.extract = .ok g ∧
      ∀ more : List Event,
        (∀ e, (loaded.history more).answer e = (start.history (events ++ more)).answer e) ∧
          ∀ q, (loaded.history more).ask q = (start.history (events ++ more)).ask q := by
  have sound := blank.sound.history within
  have policy' : fresh.policy = (start.history events).policy := by rw [policy_history, policy]
  obtain ⟨g, loaded, extracted, accepted, alike⟩ :=
    sound.reproduce (within events List.prefix_rfl) healthy policy' unused well
  refine ⟨g, loaded, extracted, accepted, alike.extract.trans extracted, fun more => ?_⟩
  rw [history_append]
  exact ⟨(alike.history more).answer, (alike.history more).ask⟩

/-- A policy with short addresses that asks for one approval. -/
def oneOfficer : Policy := ⟨⟨"x", 1⟩, ⟨1, 80⟩⟩

/-- An unused ledger whose stores have files. -/
def onNoFiles (policy : Policy) : Ledger :=
  let store (b : Book) : Store := .onNoFile b.name
  ⟨policy, store .scorecards, store .budgets, store .procurements, store .disbursements,
    store .delegations⟩

/-- Two officers are rated, the second scorecard is given to a third officer, and the first officer
delegates. -/
def officersRated : List Step := [
  .operate (.rate ⟨0, "xaa", "honesty", 90, 1, "", "xaa"⟩),
  .operate (.rate ⟨0, "xbb", "honesty", 80, 1, "", "xaa"⟩),
  .operate (.rate ⟨2, "xcc", "honesty", 80, 1, "", "xaa"⟩),
  .operate (.delegate (.between "xaa" "xcc" "roads"))]

/-- A ledger in memory with two scorecards and a delegation is reproduced on files. -/
theorem reproduce_officersRated :
    ∃ g loaded, g.recordCount = 3 ∧
      ((inMemory oneOfficer).history (officersRated.map .step)).extract = .ok g ∧
      (onNoFiles oneOfficer).load g = (.ok (), loaded) ∧ loaded.extract = .ok g ∧
      ∀ more : List Event,
        (∀ e, (loaded.history more).answer e =
          ((inMemory oneOfficer).history (officersRated.map .step ++ more)).answer e) ∧
          ∀ q, (loaded.history more).ask q =
            ((inMemory oneOfficer).history (officersRated.map .step ++ more)).ask q := by
  have short : ∀ front ∈ (officersRated.map Event.step).inits,
      ((inMemory oneOfficer).history front).Within (Bytes.reach 4) := by decide +kernel
  have count : ((inMemory oneOfficer).history (officersRated.map .step)).extract.map
      Genesis.recordCount = .ok 3 := by decide +kernel
  have healthy : ((inMemory oneOfficer).history (officersRated.map .step)).Healthy := by
    rw [history_map_step]
    exact (healthy_inMemory _).run _
  obtain ⟨g, loaded, extracted, rest⟩ := @reproduce_history _ (blank_inMemory oneOfficer) _
    (fun front happens => short front ((List.mem_inits _ _).2 happens)) healthy
    (onNoFiles oneOfficer) rfl (fun b => by cases b <;> rfl) (fun b => by cases b <;> rfl)
  rw [extracted] at count
  exact ⟨g, loaded, Except.ok.inj count, extracted, rest⟩

end Ledger

end PublicFunds
