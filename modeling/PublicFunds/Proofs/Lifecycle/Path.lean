import Mathlib.Data.List.Chain
import Mathlib.Data.List.Destutter
import Mathlib.Logic.Relation
import PublicFunds.Disbursement.Basic

/-!
# Paths through a lifecycle

No arrow of a lifecycle leads back.  Every status has a height, which is the number of steps that
can still be taken from it, and every arrow leads down.  So a status that was left is never entered
again, a terminal status is never left, and no record takes more steps than the longest path has.

A record is looked at more often than it changes.  What is seen is then a path in which statuses are
repeated, and dropping the repetitions leaves the path.

* `Lifecycle.IsPath`, `Lifecycle.height`, `Lifecycle.longest`: paths and how long they can be.
* `Lifecycle.Descending`: lifecycles in which every arrow leads down.
* `Lifecycle.length_le_of_isPath`, `Lifecycle.exists_isPath`: `longest` is the length of the longest
  path.
* `Lifecycle.Leads.eq_of_isTerminal`, `Lifecycle.Leads.ne_of_leads`: no way out and no way back.
* `Lifecycle.isPath_destutter`: what is seen of a path.
-/

namespace PublicFunds

namespace Lifecycle

variable {σ : Type} [Lifecycle σ] [DecidableEq σ]

/-- Statuses one after the other along the arrows. -/
def IsPath (path : List σ) : Prop := path.IsChain fun s t => follows s t = true

/-- One status leads to another in some number of steps, which may be none. -/
def Leads (s t : σ) : Prop := Relation.ReflTransGen (fun s t => follows s t = true) s t

omit [DecidableEq σ] in
/-- How many steps can be taken from a status, up to some number. -/
def height : Nat → σ → Nat
  | 0, _ => 0
  | fuel + 1, s => ((successors s).map fun t => height fuel t + 1).max?.getD 0

/-- How many steps the longest path has. -/
def longest (σ : Type) [Lifecycle σ] : Nat :=
  ((all : List σ).map (height (all : List σ).length)).max?.getD 0

/-- Every status is listed, every arrow leads down, and none is above the first status. -/
class Descending (σ : Type) [Lifecycle σ] [DecidableEq σ] : Prop where
  complete : ∀ s : σ, s ∈ (all : List σ)
  descends : ∀ s t : σ, follows s t = true →
    height (all : List σ).length t < height (all : List σ).length s
  highest : ∀ s : σ, height (all : List σ).length s ≤ height (all : List σ).length (initial : σ)

instance : Descending BudgetStatus where
  complete s := by cases s <;> decide
  descends s t := by cases s <;> cases t <;> decide
  highest s := by cases s <;> decide

instance : Descending ProcurementStatus where
  complete s := by cases s <;> decide
  descends s t := by cases s <;> cases t <;> decide
  highest s := by cases s <;> decide

instance : Descending DisbursementStatus where
  complete s := by cases s <;> decide
  descends s t := by cases s <;> cases t <;> decide
  highest s := by cases s <;> decide

/-- No arrow leads from a status to itself. -/
theorem ne_of_follows [Descending σ] {s t : σ} (h : follows s t = true) : s ≠ t := by
  rintro rfl
  exact absurd (Descending.descends s s h) (Nat.lt_irrefl _)

/-- No arrow leads to the first status. -/
theorem isInitial_of_follows [Descending σ] {s t : σ} (h : follows s t = true) :
    isInitial t = false := by
  rw [isInitial, decide_eq_false_iff_not]
  rintro rfl
  exact absurd (Descending.descends s _ h) (Nat.not_lt_of_le (Descending.highest s))

/-! ## The length of paths -/

/-- The height of a status is reached by a path. -/
theorem exists_isPath_cons (fuel : Nat) (s : σ) :
    ∃ path, IsPath (s :: path) ∧ path.length = height fuel s := by
  induction fuel generalizing s with
  | zero => exact ⟨[], .singleton s, rfl⟩
  | succ fuel ih =>
    rw [height]
    cases greatest : ((successors s).map fun t => height fuel t + 1).max? with
    | none => exact ⟨[], .singleton s, rfl⟩
    | some top =>
      obtain ⟨t, arrow, rfl⟩ := List.mem_map.1 (List.max?_mem greatest)
      obtain ⟨path, isPath, length⟩ := ih t
      refine ⟨t :: path, .cons_cons (List.contains_iff_mem.2 arrow) isPath, ?_⟩
      rw [List.length_cons, length, Option.getD_some]

/-- A path is no longer than the height of its first status. -/
theorem length_le_height [Descending σ] {s : σ} {path : List σ} (h : IsPath (s :: path)) :
    path.length ≤ height (all : List σ).length s := by
  induction path generalizing s with
  | nil => exact Nat.zero_le _
  | cons t path ih =>
    obtain ⟨arrow, rest⟩ := List.isChain_cons_cons.1 h
    exact Nat.succ_le_of_lt ((ih rest).trans_lt (Descending.descends s t arrow))

theorem height_le_longest [Descending σ] (s : σ) : height (all : List σ).length s ≤ longest σ :=
  List.le_max?_getD_of_mem (List.mem_map.2 ⟨s, Descending.complete s, rfl⟩)

/-- **No path has more steps than the longest.** -/
theorem length_le_of_isPath [Descending σ] {path : List σ} (h : IsPath path) :
    path.length ≤ longest σ + 1 := by
  cases path with
  | nil => exact Nat.zero_le _
  | cons s path => exact Nat.succ_le_succ ((length_le_height h).trans (height_le_longest s))

/-- There is a path with that many steps. -/
theorem exists_isPath [Descending σ] :
    ∃ path : List σ, IsPath path ∧ path.length = longest σ + 1 := by
  have listed := List.mem_map_of_mem (f := height (all : List σ).length)
    (Descending.complete (initial : σ))
  obtain ⟨top, greatest⟩ := Option.isSome_iff_exists.1 (List.isSome_max?_of_mem listed)
  obtain ⟨s, -, rfl⟩ := List.mem_map.1 (List.max?_mem greatest)
  obtain ⟨path, isPath, length⟩ := exists_isPath_cons (all : List σ).length s
  refine ⟨s :: path, isPath, ?_⟩
  rw [List.length_cons, length, longest, greatest, Option.getD_some]

/-- A budget goes from its draft to the archive in four steps. -/
example : longest BudgetStatus = 4 := by decide

/-! ## No way out, and no way back -/

namespace Leads

variable {s t u : σ}

/-- A terminal status leads nowhere else. -/
theorem eq_of_isTerminal (h : Leads s t) (terminal : isTerminal s = true) : t = s := by
  rcases Relation.ReflTransGen.cases_head h with rfl | ⟨next, arrow, -⟩
  · rfl
  · rw [isTerminal, List.isEmpty_iff] at terminal
    rw [follows, terminal] at arrow
    cases arrow

variable [Descending σ]

/-- Whatever a status leads to is lower, or the same status. -/
theorem eq_or_lower (h : Leads s t) :
    t = s ∨ height (all : List σ).length t < height (all : List σ).length s := by
  induction h with
  | refl => exact .inl rfl
  | tail _ arrow ih =>
    have lower := Descending.descends _ _ arrow
    rcases ih with rfl | before
    · exact .inr lower
    · exact .inr (lower.trans before)

/-- **A status that was left is never entered again.** -/
theorem ne_of_leads (h : Leads s t) (left : t ≠ s) (next : Leads t u) : u ≠ s := by
  rintro rfl
  have down := h.eq_or_lower.resolve_left left
  rcases next.eq_or_lower with rfl | up
  · exact left rfl
  · exact absurd (up.trans down) (Nat.lt_irrefl _)

end Leads

/-! ## Paths that are seen more than once -/

/-- Dropping repetitions from statuses each of which is the one before it or the next leaves a
path, which starts where they do. -/
theorem exists_destutter'_eq {s : σ} {l : List σ}
    (h : (s :: l).IsChain fun s t => t = s ∨ follows s t = true) :
    ∃ path, l.destutter' (· ≠ ·) s = s :: path ∧ IsPath (s :: path) := by
  induction l generalizing s with
  | nil => exact ⟨[], rfl, .singleton s⟩
  | cons t l ih =>
    obtain ⟨next, rest⟩ := List.isChain_cons_cons.1 h
    by_cases same : s = t
    · subst same
      rw [List.destutter'_cons_neg l (not_not_intro rfl)]
      exact ih rest
    · obtain ⟨path, dropped, isPath⟩ := ih rest
      rw [List.destutter'_cons_pos l same, dropped]
      exact ⟨t :: path, rfl, .cons_cons (next.resolve_left (Ne.symm same)) isPath⟩

/-- **What is seen of a path** is the path, with statuses repeated. -/
theorem isPath_destutter {l : List σ}
    (h : l.IsChain fun s t => t = s ∨ follows s t = true) : IsPath (l.destutter (· ≠ ·)) := by
  cases l with
  | nil => exact .nil
  | cons s l =>
    obtain ⟨path, dropped, isPath⟩ := exists_destutter'_eq h
    rw [List.destutter_cons', dropped]
    exact isPath

end Lifecycle

end PublicFunds
