import PublicFunds.Store.Dialogue

/-!
# When a dialogue is atomic

A dialogue that ends in an error ought to have left no trace, whatever backend it was held with and
whichever of its calls failed.  Nothing in a dialogue makes it so: it could hand over two batches
and stop between them, or go on as if nothing were amiss when the first was lost.

It is so if the dialogue asks, for as long as it likes, and then either ends or hands over one batch
and ends, in an error exactly if that was lost.  This can be read off the dialogue without looking
at any backend, part by part in the way it is put together.

* `Dialogue.Asks`, `Dialogue.Settles`: dialogues that only ask, and those that then write once.
* `Asks.bind`, `Asks.bind_settles`, `settles_commit`: how such dialogues are put together.
* `Backend.course`: a dialogue with every state on the way; `Course.Atomic`: all or nothing.
* `Dialogue.Settles.atomic`: a dialogue that settles is atomic, with any backend.
* `Backend.hold_bind` and others: what a dialogue comes to that is put together.
-/

namespace PublicFunds

variable {ε ε' α β : Type}

namespace Dialogue

/-! ## Dialogues that ask, and dialogues that settle -/

/-- A dialogue that only asks. -/
inductive Asks : Dialogue ε α → Prop where
  | done (answer : Except ε α) : Asks (.done answer)
  | ask (q : Store.Query) {next : Except StoreFault q.Reply → Dialogue ε α}
      (rest : ∀ reply, Asks (next reply)) : Asks (.ask q next)

/-- A dialogue that asks, and then ends or hands over one batch.  If it does, the answer is an error
exactly if the batch was lost. -/
inductive Settles : Dialogue ε α → Prop where
  | done (answer : Except ε α) : Settles (.done answer)
  | ask (q : Store.Query) {next : Except StoreFault q.Reply → Dialogue ε α}
      (rest : ∀ reply, Settles (next reply)) : Settles (.ask q next)
  | write (batch : Batch) {next : Except StoreFault Unit → Dialogue ε α} (a : α)
      (written : next (.ok ()) = .done (.ok a))
      (lost : ∀ fault, ∃ e, next (.error fault) = .done (.error e)) : Settles (.write batch next)

theorem asks_question (blame : StoreFault → ε) (q : Store.Query) : (question blame q).Asks :=
  .ask q fun reply => .done (reply.mapError blame)

theorem settles_commit (blame : StoreFault → ε) (batch : Batch) : (commit blame batch).Settles := by
  unfold commit
  split
  · exact .done (.ok ())
  · exact .write batch () rfl fun fault => ⟨blame fault, rfl⟩

section Together

variable {d : Dialogue ε α}

/-- Questions after questions. -/
theorem Asks.bind {rest : α → Dialogue ε β} (first : d.Asks) (second : ∀ a, (rest a).Asks) :
    (d >>= rest).Asks := by
  induction first with
  | done answer =>
    cases answer with
    | error e => exact .done (.error e)
    | ok a => exact second a
  | ask q _ ih => exact .ask q ih

theorem Asks.mapError {blame : ε → ε'} (h : d.Asks) : (d.mapError blame).Asks := by
  induction h with
  | done answer => exact .done (answer.mapError blame)
  | ask q _ ih => exact .ask q ih

/-- A dialogue that settles, after questions. -/
theorem Asks.bind_settles {rest : α → Dialogue ε β} (first : d.Asks)
    (second : ∀ a, (rest a).Settles) : (d >>= rest).Settles := by
  induction first with
  | done answer =>
    cases answer with
    | error e => exact .done (.error e)
    | ok a => exact second a
  | ask q _ ih => exact .ask q ih

theorem Settles.map {f : α → β} (h : d.Settles) : (d.map f).Settles := by
  induction h with
  | done answer =>
    cases answer with
    | error e => exact .done (.error e)
    | ok a => exact .done (.ok (f a))
  | ask q _ ih => exact .ask q ih
  | @write batch next a written lost =>
    refine .write batch (f a) ?_ fun fault => ?_
    · rw [written]
      rfl
    · obtain ⟨e, ends⟩ := lost fault
      refine ⟨e, ?_⟩
      rw [ends]
      rfl

end Together

end Dialogue

/-! ## The course of a dialogue -/

/-- How a dialogue went. -/
structure Course (B : Backend) (ε α : Type) where
  answer : Except ε α
  /-- The batches that were handed over, whether they were written or not. -/
  batches : List Batch
  /-- The states in which calls were made, in their order. -/
  passed : List B.State
  /-- The state after the last call. -/
  last : B.State

/-- What a course comes to: the answer, and the backend afterwards. -/
def Course.result {B : Backend} (c : Course B ε α) : Except ε α × B.State := (c.answer, c.last)

/-- The course with a call before it. -/
def Course.after {B : Backend} (c : Course B ε α) (s : B.State) (batches : List Batch) :
    Course B ε α :=
  { c with batches := batches ++ c.batches, passed := s :: c.passed }

/-- How a dialogue goes from a state. -/
def Backend.course (B : Backend) : Dialogue ε α → B.State → Course B ε α
  | .done answer, s => ⟨answer, [], [], s⟩
  | .ask q next, s =>
    match B.ask q s with
    | (reply, t) => (B.course (next reply) t).after s []
  | .write batch next, s =>
    match B.write batch s with
    | (result, t) => (B.course (next result) t).after s [batch]

/-- A dialogue that is held takes its course. -/
theorem Backend.result_course (B : Backend) (d : Dialogue ε α) (s : B.State) :
    (B.course d s).result = B.hold d s := by
  induction d generalizing s with
  | done answer => rfl
  | ask q next ih => exact ih (B.ask q s).1 (B.ask q s).2
  | write batch next ih => exact ih (B.write batch s).1 (B.write batch s).2

namespace Course

variable {B : Backend}

/-- All or nothing, in one write, and nothing to be seen in between. -/
structure Atomic (c : Course B ε α) (start : B.State) : Prop where
  /-- One batch is handed over at most. -/
  once : c.batches.length ≤ 1
  /-- Whatever is in a state on the way was there at the start. -/
  passed : ∀ s ∈ c.passed, B.entries s = B.entries start
  /-- A failure leaves nothing behind. -/
  refused : ∀ e, c.answer = .error e → B.entries c.last = B.entries start
  /-- A success leaves what was handed over. -/
  granted : ∀ a, c.answer = .ok a →
    B.entries c.last = c.batches.foldl Entries.apply (B.entries start)

/-- A course stays atomic with a question before it. -/
theorem Atomic.after {c : Course B ε α} {s t : B.State} (h : c.Atomic t)
    (same : B.entries t = B.entries s) : (c.after s []).Atomic s where
  once := h.once
  passed u hu := by
    rcases List.mem_cons.1 hu with rfl | hu
    · rfl
    · rw [h.passed u hu, same]
  refused e he := by rw [← same, ← h.refused e he]; rfl
  granted a ha := by rw [← same]; exact h.granted a ha

end Course

/-- **A dialogue that settles is atomic**, with any backend in any state. -/
theorem Dialogue.Settles.atomic {d : Dialogue ε α} (h : d.Settles) (B : Backend) (s : B.State) :
    (B.course d s).Atomic s := by
  induction h generalizing s with
  | done answer => exact ⟨Nat.zero_le 1, nofun, fun _ _ => rfl, fun _ _ => rfl⟩
  | ask q _ ih => exact (ih (B.ask q s).1 (B.ask q s).2).after (B.entries_ask q s)
  | @write batch next a kept lost =>
    rcases written : B.write batch s with ⟨result, t⟩
    simp only [Backend.course, written]
    -- either way the dialogue is over, so `t` is where it ends
    cases result with
    | error fault =>
      obtain ⟨e, ends⟩ := lost fault
      rw [ends]
      exact ⟨Nat.le_refl 1, fun u hu => by rw [List.mem_singleton.1 hu],
        fun _ _ => B.entries_of_write_error written, nofun⟩
    | ok u =>
      rw [kept]
      exact ⟨Nat.le_refl 1, fun u hu => by rw [List.mem_singleton.1 hu], nofun,
        fun _ _ => B.entries_of_write_ok written⟩

/-! ## What a dialogue comes to -/

namespace Backend

variable (B : Backend) (s : B.State)

theorem hold_done (answer : Except ε α) : B.hold (.done answer) s = (answer, s) := rfl

/-- One dialogue and then another. -/
theorem hold_bind (d : Dialogue ε α) (rest : α → Dialogue ε β) :
    B.hold (d >>= rest) s =
      match B.hold d s with
      | (.error e, t) => (.error e, t)
      | (.ok a, t) => B.hold (rest a) t := by
  induction d generalizing s with
  | done answer => cases answer <;> rfl
  | ask q next ih => exact ih (B.ask q s).1 (B.ask q s).2
  | write batch next ih => exact ih (B.write batch s).1 (B.write batch s).2

theorem hold_map (f : α → β) (d : Dialogue ε α) :
    B.hold (d.map f) s = ((B.hold d s).1.map f, (B.hold d s).2) := by
  rw [Dialogue.map, hold_bind]
  rcases B.hold d s with ⟨result, t⟩
  cases result <;> rfl

/-- A result that is known, with its error put in other terms. -/
theorem hold_done_mapError (blame : ε → ε') (result : Except ε α) :
    B.hold (.done (result.mapError blame)) s =
      match result with
      | .error e => (.error (blame e), s)
      | .ok a => (.ok a, s) := by
  cases result <;> rfl

theorem hold_mapError (blame : ε → ε') (d : Dialogue ε α) :
    B.hold (d.mapError blame) s =
      match B.hold d s with
      | (.error e, t) => (.error (blame e), t)
      | (.ok a, t) => (.ok a, t) := by
  induction d generalizing s with
  | done answer => cases answer <;> rfl
  | ask q next ih => exact ih (B.ask q s).1 (B.ask q s).2
  | write batch next ih => exact ih (B.write batch s).1 (B.write batch s).2

end Backend

namespace Store

/-- A store that is handed a batch commits it. -/
theorem hold_commit (store : Store) (blame : StoreFault → ε) (batch : Batch) :
    backend.hold (.commit blame batch) store =
      ((store.commit batch).1.mapError blame, (store.commit batch).2) := by
  unfold Dialogue.commit Store.commit
  split <;> rfl

end Store

end PublicFunds
