import PublicFunds.Proofs.Store.Dialogue
import PublicFunds.Register.Dialogue

/-!
# What the dialogues of registers come to

Every function of a register stands in two forms, as a dialogue and as a function of the store.
With a store the two are the same, function by function, in the order in which they are built on
each other.  A question leaves the store as it is; a change does to it what its plan says.

The dialogues of questions and batches only ask.  Those of changes settle: what is asked comes
first, and the one batch last.

* `Register.hold_askFind`, `Register.hold_askUpsert` and others: a question or a batch, with a
  store.
* `Register.hold_entering`, `Register.hold_advancing`, `Register.hold_loadingVetted` and others: a
  change, with a store.
* `Register.asks_find`, `Register.asks_upsert` and others; `Register.settles_entering`,
  `Register.settles_advancing`, `Register.settles_loadingVetted` and others.
-/

namespace PublicFunds

namespace Register

/-! ## Calls -/

theorem hold_value (store : Store) (key : Bytes) :
    Store.backend.hold (inquire (.value key)) store = (asking (store.find key), store) := rfl

theorem hold_presence (store : Store) (key : Bytes) :
    Store.backend.hold (inquire (.presence key)) store = (asking (store.contains key), store) := rfl

theorem hold_scan (store : Store) (lead : Bytes) :
    Store.backend.hold (inquire (.scan lead)) store = (asking (store.scan lead), store) := rfl

/-- A batch that has been prepared is carried out. -/
theorem hold_commit (store : Store) (batch : Batch) :
    Store.backend.hold (commit batch) store = store.carryOut (.ok ((), batch)) := by
  rw [commit, Store.hold_commit, Store.carryOut]
  rcases store.commit batch with ⟨result, after⟩
  cases result <;> rfl

theorem hold_commit_pure {α : Type} (store : Store) (batch : Batch) (answer : α) :
    Store.backend.hold (commit batch >>= fun _ => pure answer) store =
      store.carryOut (.ok (answer, batch)) := by
  rw [Backend.hold_bind, commit, Store.hold_commit, Store.carryOut]
  rcases store.commit batch with ⟨result, after⟩
  cases result <;> rfl

theorem asks_inquire (q : Store.Query) : (inquire q).Asks := Dialogue.asks_question _ q

theorem settles_commit (batch : Batch) : (commit batch).Settles := Dialogue.settles_commit _ batch

theorem settles_commit_pure {α : Type} (batch : Batch) (answer : α) :
    (commit batch >>= fun _ => pure answer).Settles :=
  (settles_commit batch).map

variable {ρ : Type} [Record ρ] (r : Register ρ) (store : Store)

/-! ## Questions -/

theorem hold_askLast : Store.backend.hold r.askLast store = (r.last store, store) := by
  rw [askLast, Backend.hold_bind, hold_value, last]
  cases store.find [r.counter] with
  | error fault => rfl
  | ok value => cases value <;> rfl

theorem asks_last : r.askLast.Asks :=
  (asks_inquire _).bind fun value => by cases value <;> exact .done _

theorem hold_askNext : Store.backend.hold r.askNext store = (r.next store, store) := by
  rw [askNext, Backend.hold_bind, hold_askLast, next]
  cases r.last store with
  | error e => rfl
  | ok n =>
    simp only
    split <;> rfl

theorem asks_next : r.askNext.Asks :=
  r.asks_last.bind fun n => by split <;> exact .done _

theorem hold_askFind (id : RecordId) :
    Store.backend.hold (r.askFind id) store = (r.find store id, store) := by
  rw [askFind, Backend.hold_bind, hold_value, find]
  cases store.find (Layout.idKey r.records id) with
  | error fault => rfl
  | ok value => cases value <;> rfl

theorem asks_find (id : RecordId) : (r.askFind id).Asks :=
  (asks_inquire _).bind fun value => by cases value <;> exact .done _

theorem hold_askGet (id : RecordId) :
    Store.backend.hold (r.askGet id) store = (r.get store id, store) := by
  rw [askGet, Backend.hold_bind, hold_askFind, get]
  cases r.find store id with
  | error e => rfl
  | ok there => cases there <;> rfl

theorem asks_get (id : RecordId) : (r.askGet id).Asks :=
  (r.asks_find id).bind fun there => by cases there <;> exact .done _

omit [Record ρ] in
theorem hold_askContains (id : RecordId) :
    Store.backend.hold (r.askContains id) store = (r.contains store id, store) :=
  hold_presence store _

theorem hold_askKnown (x : ρ) :
    Store.backend.hold (r.askKnown x) store =
      (if Record.id x = 0 then .ok true else r.contains store (Record.id x), store) := by
  unfold askKnown
  split
  · rfl
  · exact r.hold_askContains store (Record.id x)

theorem asks_known (x : ρ) : (r.askKnown x).Asks := by
  unfold askKnown
  split
  · exact .done _
  · exact asks_inquire _

theorem hold_askIsEmpty : Store.backend.hold r.askIsEmpty store = (r.isEmpty store, store) := by
  rw [askIsEmpty, Backend.hold_bind, hold_askLast, isEmpty]
  cases r.last store with
  | error e => rfl
  | ok n =>
    by_cases unused : n = 0
    · simp only [if_pos unused]
      rw [Backend.hold_bind, hold_scan]
      cases store.scan [r.records] <;> rfl
    · simp only [if_neg unused]
      rfl

theorem asks_isEmpty : r.askIsEmpty.Asks :=
  r.asks_last.bind fun n => by
    split
    · exact (asks_inquire _).bind fun _ => .done _
    · exact .done _

theorem hold_askLookup (pair : PairKey) :
    Store.backend.hold (r.askLookup pair) store = (r.lookup store pair, store) := by
  rw [askLookup, Backend.hold_bind, Backend.hold_done, lookup]
  cases r.indexRegion with
  | error e => rfl
  | ok region =>
    simp only
    rw [Backend.hold_bind, hold_value]
    cases store.find (Layout.pairKey region pair) with
    | error fault => rfl
    | ok value => cases value <;> rfl

theorem asks_lookup (pair : PairKey) : (r.askLookup pair).Asks :=
  (Dialogue.Asks.done _).bind fun _ => (asks_inquire _).bind fun value => by
    cases value <;> exact .done _

/-! ## Batches -/

theorem hold_askAdd (x : ρ) : Store.backend.hold (r.askAdd x) store = (r.add store x, store) := by
  unfold askAdd add
  split
  · rw [Backend.hold_bind, hold_askNext]
    cases r.next store <;> rfl
  · rfl

theorem asks_add (x : ρ) : (r.askAdd x).Asks := by
  unfold askAdd
  split
  · exact r.asks_next.bind fun _ => .done _
  · exact .done _

theorem hold_askLoad (x : Section ρ) :
    Store.backend.hold (r.askLoad x) store = (r.load store x, store) := by
  rw [askLoad, Backend.hold_bind, Backend.hold_mapError, hold_askIsEmpty, load]
  cases r.isEmpty store with
  | error e => rfl
  | ok unused =>
    cases unused with
    | false => rfl
    | true => cases x.checkIds <;> rfl

theorem asks_load (x : Section ρ) : (r.askLoad x).Asks :=
  r.asks_isEmpty.mapError.bind fun _ => by
    split
    · exact (Dialogue.Asks.done _).bind fun _ => .done _
    · exact .done _

section Paired

variable [Paired ρ]

theorem hold_askDropPair (id : RecordId) (pair : PairKey) :
    Store.backend.hold (r.askDropPair id pair) store = (r.dropPair store id pair, store) := by
  rw [askDropPair, Backend.hold_bind, hold_askFind, dropPair]
  cases r.find store id with
  | error e => rfl
  | ok there =>
    cases there with
    | none => rfl
    | some previous =>
      simp only
      split
      · rfl
      · cases r.indexRegion <;> rfl

theorem asks_dropPair (id : RecordId) (pair : PairKey) : (r.askDropPair id pair).Asks :=
  (r.asks_find id).bind fun there => by
    cases there with
    | none => exact .done _
    | some previous =>
      simp only
      split
      · exact .done _
      · exact (Dialogue.Asks.done _).bind fun _ => .done _

theorem hold_askSettle (x : ρ) :
    Store.backend.hold (r.askSettle x) store = (r.settle store x, store) := by
  rw [askSettle, Backend.hold_bind, hold_askLookup, settle]
  cases r.lookup store (Paired.pair x) with
  | error e => rfl
  | ok taken =>
    cases taken with
    | some id => rfl
    | none =>
      simp only
      split
      · rfl
      · rw [Backend.hold_bind, hold_askDropPair]
        cases r.dropPair store (Record.id x) (Paired.pair x) <;> rfl

theorem asks_settle (x : ρ) : (r.askSettle x).Asks :=
  (r.asks_lookup _).bind fun taken => by
    cases taken with
    | some id => exact .done _
    | none =>
      simp only
      split
      · exact .done _
      · exact (r.asks_dropPair _ _).bind fun _ => .done _

theorem hold_askUpsert (x : ρ) :
    Store.backend.hold (r.askUpsert x) store = (r.upsert store x, store) := by
  rw [askUpsert, Backend.hold_bind, hold_askSettle, upsert]
  cases r.settle store x with
  | error e => rfl
  | ok settled =>
    simp only
    rw [Backend.hold_bind, hold_askAdd]
    cases r.add store settled.1 with
    | error e => rfl
    | ok added =>
      simp only
      cases r.stagePair (Paired.pair added.1) (Record.id added.1) <;> rfl

theorem asks_upsert (x : ρ) : (r.askUpsert x).Asks :=
  (r.asks_settle x).bind fun settled => (r.asks_add settled.1).bind fun _ =>
    (Dialogue.Asks.done _).bind fun _ => .done _

theorem hold_askLoadPaired (x : Section ρ) :
    Store.backend.hold (r.askLoadPaired x) store =
      ((r.loadPaired store x).2.map fun () => (r.loadPaired store x).1, store) := by
  rw [askLoadPaired, Backend.hold_bind, Backend.hold_done, loadPaired]
  cases x.checkPairs with
  | error e => rfl
  | ok u =>
    simp only
    rw [Backend.hold_bind, hold_askLoad]
    cases r.load store x with
    | error e => rfl
    | ok loading => cases r.stagePairs x.records <;> rfl

theorem asks_loadPaired (x : Section ρ) : (r.askLoadPaired x).Asks :=
  (Dialogue.Asks.done _).bind fun _ => (r.asks_load x).bind fun _ =>
    (Dialogue.Asks.done _).bind fun _ => .done _

end Paired

/-! ## Changes -/

variable [Vetted ρ]

theorem hold_entering [Paired ρ] (format : AddressFormat) (x : ρ) (settled : ρ → ρ) :
    Store.backend.hold (r.entering format x settled) store =
      store.carryOut (r.enter format store x settled) := by
  rw [entering, Backend.hold_bind, Backend.hold_done, enter]
  cases Vetted.checkFields format x with
  | error e => rfl
  | ok u =>
    simp only
    rw [Backend.hold_bind, Backend.hold_mapError, hold_askKnown]
    cases (if Record.id x = 0 then .ok true else r.contains store (Record.id x) :
        Except RegisterError Bool) with
    | error e => rfl
    | ok known =>
      cases known with
      | false => rfl
      | true =>
        simp only [if_true]
        rw [Backend.hold_bind, Backend.hold_mapError, hold_askUpsert]
        cases r.upsert store (settled x) with
        | error e => rfl
        | ok written => exact hold_commit_pure store written.2 (Record.id written.1)

theorem settles_entering [Paired ρ] (format : AddressFormat) (x : ρ) (settled : ρ → ρ) :
    (r.entering format x settled).Settles :=
  (Dialogue.Asks.done _).bind_settles fun _ => (r.asks_known x).mapError.bind_settles fun _ => by
    split
    · exact (r.asks_upsert (settled x)).mapError.bind_settles fun _ => settles_commit_pure _ _
    · exact .done _

theorem hold_loadingVetted (format : AddressFormat) (x : Section ρ) :
    Store.backend.hold (r.loadingVetted format x) store =
      store.carryOut (r.loadVetted format store x) := by
  rw [loadingVetted, Backend.hold_bind, Backend.hold_done, loadVetted]
  cases Vetted.checkAll format x.records with
  | error e => rfl
  | ok u =>
    simp only
    rw [Backend.hold_bind, Backend.hold_mapError, hold_askLoad]
    cases r.load store x with
    | error e => rfl
    | ok batch => exact hold_commit store batch

theorem settles_loadingVetted (format : AddressFormat) (x : Section ρ) :
    (r.loadingVetted format x).Settles :=
  (Dialogue.Asks.done _).bind_settles fun _ =>
    (r.asks_load x).mapError.bind_settles settles_commit

theorem hold_loadingVettedPaired [Paired ρ] (format : AddressFormat) (x : Section ρ) :
    Store.backend.hold (r.loadingVettedPaired format x) store =
      store.carryOut (r.loadVettedPaired format store x) := by
  rw [loadingVettedPaired, Backend.hold_bind, Backend.hold_done, loadVettedPaired]
  cases Vetted.checkAll format x.records with
  | error e => rfl
  | ok u =>
    simp only
    rw [Backend.hold_bind, Backend.hold_mapError, hold_askLoadPaired]
    rcases r.loadPaired store x with ⟨batch, result⟩
    cases result with
    | error e => rfl
    | ok u => exact hold_commit store batch

theorem settles_loadingVettedPaired [Paired ρ] (format : AddressFormat) (x : Section ρ) :
    (r.loadingVettedPaired format x).Settles :=
  (Dialogue.Asks.done _).bind_settles fun _ =>
    (r.asks_loadPaired x).mapError.bind_settles settles_commit

theorem hold_replacing (format : AddressFormat) (x : ρ) :
    Store.backend.hold (r.replacing format x) store = store.carryOut (r.replace format x) := by
  rw [replacing, Backend.hold_bind, Backend.hold_done, replace]
  cases Vetted.check format x with
  | error e => rfl
  | ok u =>
    simp only
    rw [Backend.hold_bind, Backend.hold_done]
    cases r.stage x with
    | error e => rfl
    | ok batch => exact hold_commit_pure store batch x

theorem settles_replacing (format : AddressFormat) (x : ρ) : (r.replacing format x).Settles :=
  (Dialogue.Asks.done _).bind_settles fun _ =>
    (Dialogue.Asks.done _).bind_settles fun batch => settles_commit_pure batch x

variable {σ : Type} [Lifecycle σ] [DecidableEq σ] [Governed ρ σ]

theorem hold_advancing (policy : Policy) (scores : ScoreSource) (id : RecordId) (next : σ) :
    Store.backend.hold (r.advancing policy scores id next) store =
      store.carryOut (r.advance policy store scores id next) := by
  rw [advancing, Backend.hold_bind, Backend.hold_mapError, hold_askGet, advance]
  cases r.get store id with
  | error e => rfl
  | ok x =>
    simp only
    rw [Backend.hold_bind, Backend.hold_done]
    cases Governed.transition policy.quorum scores x next with
    | error e => rfl
    | ok taken =>
      cases taken with
      | none => rfl
      | some x => exact r.hold_replacing store policy.addresses x

theorem settles_advancing (policy : Policy) (scores : ScoreSource) (id : RecordId) (next : σ) :
    (r.advancing policy scores id next).Settles :=
  (r.asks_get id).mapError.bind_settles fun x => (Dialogue.Asks.done _).bind_settles fun taken => by
    cases taken with
    | none => exact .done _
    | some x => exact r.settles_replacing policy.addresses x

omit [DecidableEq σ] in
theorem hold_endorsing (policy : Policy) (scores : ScoreSource) (id : RecordId)
    (approval : Approval) (contract : String) :
    Store.backend.hold (r.endorsing policy scores id approval contract) store =
      store.carryOut (r.endorse policy store scores id approval contract) := by
  rw [endorsing, Backend.hold_bind, Backend.hold_mapError, hold_askGet, endorse]
  cases r.get store id with
  | error e => rfl
  | ok x =>
    simp only
    rw [Backend.hold_bind, Backend.hold_done]
    cases Governed.endorse policy scores x approval contract with
    | error e => rfl
    | ok x => exact r.hold_replacing store policy.addresses x

omit [DecidableEq σ] in
theorem settles_endorsing (policy : Policy) (scores : ScoreSource) (id : RecordId)
    (approval : Approval) (contract : String) :
    (r.endorsing policy scores id approval contract).Settles :=
  (r.asks_get id).mapError.bind_settles fun _ => (Dialogue.Asks.done _).bind_settles fun x =>
    r.settles_replacing policy.addresses x

end Register

theorem Tally.hold_askFind {α : Type} (t : Tally α) (store : Store) (id : RecordId) :
    Store.backend.hold (t.askFind id) store = (t.find store id, store) := by
  rw [askFind, Backend.hold_bind, Register.hold_value, find]
  cases store.find (Layout.idKey t.region id) with
  | error fault => rfl
  | ok value => cases value <;> rfl

theorem Tally.asks_find {α : Type} (t : Tally α) (id : RecordId) : (t.askFind id).Asks :=
  (Register.asks_inquire _).bind fun value => by cases value <;> exact .done _

end PublicFunds
