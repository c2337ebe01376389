import Mathlib.Data.List.Infix
import PublicFunds.Proofs.Lifecycle.Change
import PublicFunds.Proofs.Lifecycle.Path

/-!
# Records over time

A governed record is never taken away and never becomes another one.  It goes along the arrows of
its lifecycle and is approved, and that is all.  This is said here of a register whose store is seen
again and again while things happen.  If every single event leaves each record there, and does to it
nothing or one revision, then this is what can be seen between any two points of time, and over the
whole time.

* `Governed.Continues`: what a record becomes.
* `Register.trail`: the statuses of a record, as they are seen over time.
* `Register.Continuity`: what is true of all records over time.
* `Register.continuity_of_revises`: it is enough to look at one event at a time.
-/

namespace PublicFunds

/-- A kind of record whose status and endorsement change independently of each other. -/
class GovernedApart (ρ : Type) {σ : outParam Type} [Record ρ] [Lifecycle σ] [Governed ρ σ] :
    Prop where
  withStatus_withEndorsement : ∀ (r : ρ) (s : σ) (e : Endorsement),
    Governed.withStatus (Governed.withEndorsement r e) s =
      Governed.withEndorsement (Governed.withStatus r s) e

instance : GovernedApart Budget := ⟨fun _ _ _ => rfl⟩
instance : GovernedApart Procurement := ⟨fun _ _ _ => rfl⟩
instance : GovernedApart Disbursement := ⟨fun _ _ _ => rfl⟩

variable {ρ σ : Type} [Record ρ] [Lifecycle σ] [DecidableEq σ] [Governed ρ σ]

/-! ## What becomes of a record -/

namespace Governed

/-- What a record becomes in the course of time. -/
structure Continues (x y : ρ) : Prop where
  /-- Nothing but the status and the endorsement has changed. -/
  same : ∃ s e, y = withEndorsement (withStatus x s) e
  /-- A contract may have been replaced by another, but there still is one. -/
  contract : (endorsement x).hasContract = true → (endorsement y).hasContract = true
  /-- The status has gone along the arrows. -/
  leads : Lifecycle.Leads (status x) (status y)

namespace Continues

theorem refl (x : ρ) : Continues x x where
  same := ⟨status x, endorsement x, by simp⟩
  contract := id
  leads := .refl

/-- A record goes on from what it has become. -/
theorem tail [GovernedApart ρ] {x y z : ρ} (h : Continues x y) (revises : Revises y z) :
    Continues x z := by
  obtain ⟨s, e, rfl⟩ := h.same
  cases revises with
  | status t follows =>
    refine ⟨⟨t, e, ?_⟩, ?_, ?_⟩
    · rw [GovernedApart.withStatus_withEndorsement, withStatus_withStatus]
    · rw [endorsement_withStatus]
      exact h.contract
    · rw [status_withStatus]
      exact h.leads.tail follows
  | endorsement f contract =>
    refine ⟨⟨s, f, ?_⟩, ?_, ?_⟩
    · rw [withEndorsement_withEndorsement]
    · rw [endorsement_withEndorsement]
      exact fun _ => contract
    · rw [status_withEndorsement]
      exact h.leads

end Continues

/-- A revision keeps the status or takes it along one arrow. -/
theorem Revises.status_eq_or_follows {x y : ρ} (h : Revises x y) :
    Governed.status y = Governed.status x ∨
      Lifecycle.follows (Governed.status x) (Governed.status y) = true := by
  cases h with
  | status s follows =>
    rw [status_withStatus]
    exact .inr follows
  | endorsement e contract =>
    rw [status_withEndorsement]
    exact .inl rfl

end Governed

/-! ## What is seen over time -/

namespace Register

omit [DecidableEq σ] in
/-- The status that a record is seen with, if there is one under the id. -/
def seen (r : Register ρ) (store : Store) (id : RecordId) : Option σ :=
  match r.find store id with
  | .ok (some x) => some (Governed.status x)
  | .ok none => none
  | .error _ => none

omit [DecidableEq σ] in
/-- The statuses that a record is seen with, before anything has happened and after each event. -/
def trail {ε : Type} (r : Register ρ) (stores : List ε → Store) (events : List ε)
    (id : RecordId) : List σ :=
  events.inits.filterMap fun front => r.seen (stores front) id

/-- **What is true of all records over time.**  `stores front` is the store after the first events,
which are `front`. -/
structure Continuity {ε : Type} (r : Register ρ) (stores : List ε → Store) (events : List ε) :
    Prop where
  /-- A record that is there stays there, and is the same but for its status and its endorsement. -/
  stays : ∀ {first second : List ε}, first <+: second → second <+: events →
    ∀ {id : RecordId} {x : ρ}, r.find (stores first) id = .ok (some x) →
      ∃ y, r.find (stores second) id = .ok (some y) ∧ Governed.Continues x y
  /-- One event takes the status along one arrow, if it changes it. -/
  arrow : ∀ {front : List ε} {e : ε}, front ++ [e] <+: events → ∀ {id : RecordId} {x y : ρ},
    r.find (stores front) id = .ok (some x) → r.find (stores (front ++ [e])) id = .ok (some y) →
      Governed.status y ≠ Governed.status x →
        Lifecycle.follows (Governed.status x) (Governed.status y) = true
  /-- A terminal status is never left. -/
  terminal : ∀ {first second : List ε}, first <+: second → second <+: events →
    ∀ {id : RecordId} {x y : ρ}, r.find (stores first) id = .ok (some x) →
      Lifecycle.isTerminal (Governed.status x) = true →
        r.find (stores second) id = .ok (some y) → Governed.status y = Governed.status x
  /-- A status that was left is never entered again. -/
  forward : ∀ {first second third : List ε}, first <+: second → second <+: third →
    third <+: events → ∀ {id : RecordId} {x y z : ρ}, r.find (stores first) id = .ok (some x) →
      r.find (stores second) id = .ok (some y) → Governed.status y ≠ Governed.status x →
        r.find (stores third) id = .ok (some z) → Governed.status z ≠ Governed.status x
  /-- The statuses of a record are a path, so it takes no more steps than the longest path has. -/
  path : ∀ id, Lifecycle.IsPath ((r.trail stores events id).destutter (· ≠ ·)) ∧
    ((r.trail stores events id).destutter (· ≠ ·)).length ≤ Lifecycle.longest σ + 1

/-- A record that is there before an event is there after it, and is the same or has been revised. -/
def OnlyRevised {ε : Type} (r : Register ρ) (stores : List ε → Store) (events : List ε) : Prop :=
  ∀ front e, front ++ [e] <+: events → ∀ id x, r.find (stores front) id = .ok (some x) →
    ∃ y, r.find (stores (front ++ [e])) id = .ok (some y) ∧
      Relation.ReflGen Governed.Revises x y

section Events

variable {ε : Type} {r : Register ρ} {stores : List ε → Store} {events : List ε}

omit [DecidableEq σ] in
theorem seen_eq_some {store : Store} {id : RecordId} {s : σ} (h : r.seen store id = some s) :
    ∃ x, r.find store id = .ok (some x) ∧ Governed.status x = s := by
  unfold seen at h
  split at h
  · next x found => exact ⟨x, found, Option.some.inj h⟩
  · cases h
  · cases h

omit [DecidableEq σ] in
theorem seen_of_find {store : Store} {id : RecordId} {x : ρ}
    (h : r.find store id = .ok (some x)) : r.seen store id = some (Governed.status x) := by
  rw [seen, h]

omit [DecidableEq σ] in
theorem trail_append (r : Register ρ) (stores : List ε → Store) (front : List ε) (e : ε)
    (id : RecordId) : r.trail stores (front ++ [e]) id =
      r.trail stores front id ++ (r.seen (stores (front ++ [e])) id).toList := by
  rw [trail, List.inits_append, List.filterMap_append]
  cases h : r.seen (stores (front ++ [e])) id <;> simp [trail, h]

/-- The last status of a trail is the one that is seen at the end, and each is the one before it or
the next. -/
theorem trail_chain (revises : r.OnlyRevised stores events) (id : RecordId) {front : List ε}
    (happened : front <+: events) :
    (r.trail stores front id).getLast? = r.seen (stores front) id ∧
      (r.trail stores front id).IsChain fun s t => t = s ∨ Lifecycle.follows s t = true := by
  induction front using List.reverseRecOn with
  | nil =>
    cases h : r.seen (stores []) id <;> simp [trail, h]
  | append_singleton front e ih =>
    obtain ⟨last, chain⟩ := ih ((List.prefix_append front [e]).trans happened)
    rw [trail_append]
    cases now : r.seen (stores (front ++ [e])) id with
    | none =>
      rw [Option.toList_none, List.append_nil, last]
      refine ⟨?_, chain⟩
      -- what was seen before would still be seen
      cases before : r.seen (stores front) id with
      | none => rfl
      | some s =>
        obtain ⟨x, found, -⟩ := seen_eq_some before
        obtain ⟨y, found', -⟩ := revises front e happened id x found
        rw [seen_of_find found'] at now
        cases now
    | some t =>
      refine ⟨by simp, chain.append (.singleton t) fun s hs t' ht => ?_⟩
      cases Option.some.inj ht
      rw [last] at hs
      obtain ⟨x, found, rfl⟩ := seen_eq_some hs
      obtain ⟨y, found', became⟩ := revises front e happened id x found
      rw [seen_of_find found'] at now
      cases now
      cases became with
      | refl => exact .inl rfl
      | single revised => exact revised.status_eq_or_follows

/-- **It is enough to look at one event at a time.** -/
theorem continuity_of_revises [GovernedApart ρ] [Lifecycle.Descending σ]
    (revises : r.OnlyRevised stores events) : r.Continuity stores events := by
  have stays : ∀ {first second : List ε}, first <+: second → second <+: events →
      ∀ {id : RecordId} {x : ρ}, r.find (stores first) id = .ok (some x) →
        ∃ y, r.find (stores second) id = .ok (some y) ∧ Governed.Continues x y := by
    intro first second earlier happened id x found
    obtain ⟨rest, rfl⟩ := earlier
    induction rest using List.reverseRecOn with
    | nil => exact ⟨x, by rwa [List.append_nil], .refl x⟩
    | append_singleton rest e ih =>
      rw [← List.append_assoc] at happened ⊢
      obtain ⟨y, found', continues⟩ := ih ((List.prefix_append _ [e]).trans happened)
      obtain ⟨z, found'', became⟩ := revises _ e happened id y found'
      refine ⟨z, found'', ?_⟩
      cases became with
      | refl => exact continues
      | single revised => exact continues.tail revised
  have leads : ∀ {first second : List ε}, first <+: second → second <+: events →
      ∀ {id : RecordId} {x y : ρ}, r.find (stores first) id = .ok (some x) →
        r.find (stores second) id = .ok (some y) →
          Lifecycle.Leads (Governed.status x) (Governed.status y) := by
    intro first second earlier happened id x y found found'
    obtain ⟨y', there, continues⟩ := stays earlier happened found
    cases there.symm.trans found'
    exact continues.leads
  exact {
    stays := stays
    arrow := by
      intro front e happened id x y found found' changed
      obtain ⟨y', there, became⟩ := revises front e happened id x found
      cases there.symm.trans found'
      cases became with
      | refl => exact absurd rfl changed
      | single revised => exact revised.status_eq_or_follows.resolve_left changed
    terminal := fun earlier happened _ _ _ found last found' =>
      (leads earlier happened found found').eq_of_isTerminal last
    forward := fun earlier later happened _ _ _ _ found found' left found'' =>
      (leads earlier (later.trans happened) found found').ne_of_leads left
        (leads later happened found' found'')
    path := fun id =>
      have path := Lifecycle.isPath_destutter (trail_chain revises id List.prefix_rfl).2
      ⟨path, Lifecycle.length_le_of_isPath path⟩ }

end Events

end Register

end PublicFunds
