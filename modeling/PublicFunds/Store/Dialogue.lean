import PublicFunds.Store.Basic

/-!
# Dialogues with a backend

A store whose faults are laid down in advance says too little about what can go wrong: a backend may
answer a question once and fail at it the next time.  So what an operation does with a store is
written down as a dialogue: which call it makes first, and which one next, depending on what came
back.  A call that fails is answered like any other, and what to do about it is up to the dialogue.

A backend is anything that such a dialogue can be held with.  It moves from state to state as it
likes, answers what it likes and fails when it likes.  Two things only are asked of it: a question
does not change what it holds, and a batch is applied as a whole or not at all.

* `Dialogue`: one side, with `do` notation.  The first error ends it.
* `Dialogue.question`, `Dialogue.commit`: single calls.
* `Backend`, `Backend.hold`: the other side, and the two together.
* `Store.backend`: a store is a backend.
-/

namespace PublicFunds

namespace Store.Query

/-- What a question asks for. -/
abbrev Reply : Query → Type
  | .value _ => Option Bytes
  | .presence _ => Bool
  | .scan _ => List (Bytes × Bytes)

/-- The true answer. -/
def reply (entries : Entries) : (q : Query) → q.Reply
  | .value key => entries.get? key
  | .presence key => entries.contains key
  | .scan lead => entries.startingWith lead

end Store.Query

/-- One side of a dialogue: the calls that are made, each depending on how those before it went. -/
inductive Dialogue (ε α : Type) where
  | done (answer : Except ε α)
  | ask (q : Store.Query) (next : Except StoreFault q.Reply → Dialogue ε α)
  | write (batch : Batch) (next : Except StoreFault Unit → Dialogue ε α)

namespace Dialogue

variable {ε ε' α β : Type}

/-! ## Putting dialogues together -/

/-- One dialogue and then another, unless the first ends in an error. -/
def andThen : Dialogue ε α → (α → Dialogue ε β) → Dialogue ε β
  | .done (.error e), _ => .done (.error e)
  | .done (.ok a), rest => rest a
  | .ask q next, rest => .ask q fun reply => (next reply).andThen rest
  | .write batch next, rest => .write batch fun result => (next result).andThen rest

instance : Monad (Dialogue ε) where
  pure a := .done (.ok a)
  bind := andThen

/-- A dialogue that ends in an error without a call. -/
def fail (e : ε) : Dialogue ε α := .done (.error e)

/-- A dialogue that answers something else. -/
def map (f : α → β) (d : Dialogue ε α) : Dialogue ε β := d >>= fun a => pure (f a)

/-- A dialogue whose errors are put in other terms. -/
def mapError (f : ε → ε') : Dialogue ε α → Dialogue ε' α
  | .done answer => .done (answer.mapError f)
  | .ask q next => .ask q fun reply => (next reply).mapError f
  | .write batch next => .write batch fun result => (next result).mapError f

/-! ## Single calls -/

/-- One question.  If it fails, that is the end. -/
def question (blame : StoreFault → ε) (q : Store.Query) : Dialogue ε q.Reply :=
  .ask q fun reply => .done (reply.mapError blame)

/-- One batch, which need not be handed over if it is empty.  If this fails, that is the end. -/
def commit (blame : StoreFault → ε) (batch : Batch) : Dialogue ε Unit :=
  if batch = [] then pure () else .write batch fun result => .done (result.mapError blame)

end Dialogue

/-! ## Backends -/

/-- The other side.  Nothing is said about which calls fail, or about the answers. -/
structure Backend where
  State : Type
  entries : State → Entries
  ask : (q : Store.Query) → State → Except StoreFault q.Reply × State
  write : Batch → State → Except StoreFault Unit × State
  entries_ask : ∀ q s, entries (ask q s).2 = entries s
  entries_of_write_error : ∀ {batch s fault t},
    write batch s = (.error fault, t) → entries t = entries s
  entries_of_write_ok : ∀ {batch s t},
    write batch s = (.ok (), t) → entries t = (entries s).apply batch

/-- A dialogue held with a backend: what it comes to, and the backend afterwards. -/
def Backend.hold (B : Backend) {ε α : Type} : Dialogue ε α → B.State → Except ε α × B.State
  | .done answer, s => (answer, s)
  | .ask q next, s =>
    match B.ask q s with
    | (reply, s) => B.hold (next reply) s
  | .write batch next, s =>
    match B.write batch s with
    | (result, s) => B.hold (next result) s

/-- A store as a backend: a question leaves it as it is. -/
abbrev Store.backend : Backend where
  State := Store
  entries := Store.entries
  ask q store := (store.ask q (q.reply store.entries), store)
  write batch store := store.write batch
  entries_ask _ _ := rfl
  entries_of_write_error h := (write_error h).1
  entries_of_write_ok h := write_ok h

end PublicFunds
