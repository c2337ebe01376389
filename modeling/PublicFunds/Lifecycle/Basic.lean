import PublicFunds.Form.Basic

/-!
# Lifecycles

A record goes through statuses, one step at a time, along the arrows of a graph that belongs to its
kind.  Some statuses commit money or attest to something; entering one of these takes a quorum.

The numbering of the statuses is the order in which `Lifecycle.all` lists them.

* `Lifecycle.successors`, `Lifecycle.follows`: the arrows.
* `Lifecycle.isTerminal`: there is no way on.
-/

namespace PublicFunds

/-- Statuses and the arrows between them. -/
class Lifecycle (σ : Type) extends Inhabited σ where
  /-- Every status, in storage order. -/
  all : List σ
  name : σ → String
  /-- The status that every record starts with. -/
  initial : σ
  /-- The statuses that can come next. -/
  successors : σ → List σ
  /-- Whether entering a status takes a quorum. -/
  gated : σ → Bool
  default := initial

namespace Lifecycle

/-- How statuses are stored and shown. -/
def form (σ : Type) [Lifecycle σ] [DecidableEq σ] : Form σ := .choice all name

variable {σ : Type} [Lifecycle σ] [DecidableEq σ]

/-- Whether one status can come next after another. -/
def follows (current next : σ) : Bool := (successors current).contains next

/-- Whether a status is the last one. -/
def isTerminal (s : σ) : Bool := (successors s).isEmpty

/-- Whether a record with this status has not taken a step yet. -/
def isInitial (s : σ) : Bool := s = initial

end Lifecycle

end PublicFunds
