import Mathlib.Data.List.Infix
import Mathlib.Tactic.Choose
import PublicFunds.Proofs.Ledger.Orderly
import PublicFunds.Proofs.Store.Reopening

/-!
# Ledgers that are closed and opened again

A history goes on in one ledger.  A node stops and starts again in between, and then its ledger is
opened from what the files hold.  A career is a history with such interruptions, at any points and
as many as there may be.

Opening cannot fail in a career, since the files are up to date whatever happened before.  A store
on a file comes back with its entries.  One in memory comes back empty, which is in order as well,
so a ledger is in order after every career.

* `Ledger.Saved`, `Ledger.Saved.exists_reopen`: the files are up to date, and what is opened again.
* `Ledger.Episode`, `Ledger.career`: what happens, with interruptions.
* `Ledger.Blank.orderly_episodes`, `Ledger.Blank.orderly_career`: order after a career.
-/

namespace PublicFunds

namespace Ledger

/-! ## Opening a ledger again -/

/-- The files of all stores are up to date. -/
def Saved (ledger : Ledger) : Prop := ∀ b, (ledger.store b).Saved

/-- Every store has a file. -/
def IsPersistent (ledger : Ledger) : Prop := ∀ b, (ledger.store b).isPersistent = true

/-- If every store can be opened then so can the ledger. -/
theorem opened_of_ok (policy : Policy) {opening : Book → Except StoreFault Store}
    (h : ∀ b, ∃ store, opening b = .ok store) :
    ∃ ledger, opened policy opening = .ok ledger ∧ ledger.policy = policy ∧
      ∀ b, opening b = .ok (ledger.store b) := by
  choose stores opens using h
  refine ⟨⟨policy, stores .scorecards, stores .budgets, stores .procurements,
    stores .disbursements, stores .delegations⟩, ?_, rfl, fun b => ?_⟩
  · simp only [opened, Book.all, openBooks, opens]
    rfl
  · cases b <;> exact opens _

namespace Saved

variable {ledger : Ledger}

/-- **Opening a ledger again** whose files are up to date. -/
theorem exists_reopen (h : ledger.Saved) (within : ledger.Within (Bytes.reach 4)) :
    ∃ again, ledger.reopen = .ok again ∧ again.policy = ledger.policy ∧ again.Saved ∧
      again.Healthy ∧
      (∀ b, (again.store b).entries = (ledger.store b).entries ∨
        (again.store b).entries = .empty) ∧
      (ledger.IsPersistent →
        (∀ b, (again.store b).entries = (ledger.store b).entries) ∧
        ((∀ b, (ledger.store b).Tidy) → ∀ b, (again.store b).Tidy)) := by
  have each := fun b => (h b).exists_reopen (within b)
  obtain ⟨again, opens, policy, stores⟩ := opened_of_ok ledger.policy
    fun b => (each b).imp fun _ h => h.1
  have same : ∀ b, (again.store b).Saved ∧ (again.store b).Healthy ∧
      ((again.store b).entries = (ledger.store b).entries ∨
        (again.store b).entries = .empty) ∧
      ((ledger.store b).isPersistent = true → (again.store b).isPersistent = true ∧
        (again.store b).entries = (ledger.store b).entries ∧
        ((ledger.store b).Tidy → (again.store b).Tidy)) := by
    intro b
    obtain ⟨store, found, rest⟩ := each b
    cases found.symm.trans (stores b)
    exact rest
  exact ⟨again, opens, policy, fun b => (same b).1, fun b => (same b).2.1,
    fun b => (same b).2.2.1, fun persistent => ⟨fun b => ((same b).2.2.2 (persistent b)).2.1,
      fun tidy b => ((same b).2.2.2 (persistent b)).2.2 (tidy b)⟩⟩

/-- Whatever happens, the files stay up to date. -/
theorem history (h : ledger.Saved) (events : List Event) : (ledger.history events).Saved :=
  forall_store_history (fun _ plan saved => saved.carryOut plan)
    (fun _ _ saved => ⟨saved.apart, saved.upToDate⟩) events h

/-- Loading a document keeps the files up to date. -/
theorem load (h : ledger.Saved) (g : Genesis) : (ledger.load g).2.Saved := by
  rw [← step_load_snd]
  exact h.history [.step (.load g)]

end Saved

/-! ## Careers -/

/-- Something that happens to a ledger that may be closed in between. -/
inductive Episode where
  | event (e : Event)
  /-- The ledger is closed and opened again. -/
  | reopening

/-- The ledger after an episode.  One that cannot be opened again stays as it is. -/
def pass (ledger : Ledger) : Episode → Ledger
  | .event e => ledger.undergo e
  | .reopening =>
    match ledger.reopen with
    | .error _ => ledger
    | .ok again => again

/-- The ledger after some episodes in a row. -/
def career (ledger : Ledger) (episodes : List Episode) : Ledger := episodes.foldl pass ledger

theorem career_concat (ledger : Ledger) (front : List Episode) (e : Episode) :
    ledger.career (front ++ [e]) = (ledger.career front).pass e := by
  rw [career, List.foldl_append]
  rfl

/-- Opening a ledger again makes up for everything that went wrong in its stores. -/
theorem Saved.healthy_reopening {ledger : Ledger} (saved : ledger.Saved)
    (within : ledger.Within (Bytes.reach 4)) : (ledger.pass .reopening).Healthy := by
  obtain ⟨again, opens, -, -, healthy, -⟩ := saved.exists_reopen within
  rw [pass, opens]
  exact healthy

/-- **One episode** keeps the files up to date and the ledger in order.  A file has four bytes for a
length, which matters when the ledger is opened again. -/
theorem Orderly.pass {ledger : Ledger} (orderly : ledger.Orderly) (saved : ledger.Saved)
    (within : ledger.Within (Bytes.reach 8)) {e : Episode}
    (short : e = .reopening → ledger.Within (Bytes.reach 4)) :
    (ledger.pass e).Orderly ∧ (ledger.pass e).Saved := by
  cases e with
  | event e => exact ⟨orderly.undergo within e, saved.history [e]⟩
  | reopening =>
    obtain ⟨again, opens, policy, saved', -, entries, -⟩ := saved.exists_reopen (short rfl)
    have opened : ledger.pass .reopening = again := by rw [Ledger.pass, opens]
    rw [opened]
    refine ⟨fun b => ?_, saved'⟩
    rcases entries b with same | blank
    · rw [same, policy]
      exact orderly b
    · rw [blank]
      exact b.orderly_empty _

/-- **A ledger that started unused is in order after every career**, and its files are up to
date. -/
theorem Blank.orderly_episodes {start : Ledger} (blank : start.Blank) (saved : start.Saved)
    {episodes : List Episode}
    (within : ∀ front, front <+: episodes → (start.career front).Within (Bytes.reach 8))
    (short : ∀ front, front ++ [.reopening] <+: episodes →
      (start.career front).Within (Bytes.reach 4)) :
    (start.career episodes).Orderly ∧ (start.career episodes).Saved := by
  induction episodes using List.reverseRecOn with
  | nil => exact ⟨blank.orderly, saved⟩
  | append_singleton front e ih =>
    have before : front <+: front ++ [e] := List.prefix_append front [e]
    obtain ⟨orderly, saved⟩ := ih (fun front' happens => within front' (happens.trans before))
      fun front' happens => short front' (happens.trans before)
    rw [career_concat]
    refine orderly.pass saved (within front before) ?_
    rintro rfl
    exact short front List.prefix_rfl

/-- The same for a career in which nothing is ever too long for a file. -/
theorem Blank.orderly_career {start : Ledger} (blank : start.Blank) (saved : start.Saved)
    {episodes : List Episode}
    (within : ∀ front, front <+: episodes → (start.career front).Within (Bytes.reach 4)) :
    (start.career episodes).Orderly ∧ (start.career episodes).Saved :=
  blank.orderly_episodes saved
    (fun front happens b => (within front happens b).mono (by decide))
    fun front happens => within front ((List.prefix_append front [.reopening]).trans happens)

end Ledger

end PublicFunds
