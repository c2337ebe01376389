import PublicFunds.Proofs.Ledger.Sound
import PublicFunds.Proofs.Register.Orderly

/-!
# Every ledger is orderly

A ledger that started unused is orderly after every history, whatever was asked of it and whatever
failed.  Each book holds records that pass their checks under ids that were given out, and the store
of disbursements holds their totals as well.  Nothing is assumed about the length of names: only
that no key and no value in a store is too long for eight bytes to say how long it is, which is true
of whatever fits into a memory with addresses of this size.

* `Book.Orderly`, `Ledger.Orderly`: a book and all books in order.
* `Ledger.Orderly.undergo`, `Ledger.Blank.orderly_history`: order after an event and a history.
-/

namespace PublicFunds

namespace Book

/-- The entries of a store are those of a book.  An index need not fit its records. -/
def Orderly : Book → AddressFormat → Entries → Prop
  | .scorecards => Scorecard.register.Orderly 3
  | .budgets => Budget.register.Sound
  | .procurements => Procurement.register.Sound
  | .disbursements => Disbursement.Sound
  | .delegations => Delegation.register.Orderly 3

theorem orderly_empty (b : Book) (format : AddressFormat) : b.Orderly format .empty := by
  cases b with
  | scorecards => exact Scorecard.register.orderly_empty 3 format
  | budgets => exact Budget.register.sound_empty format
  | procurements => exact Procurement.register.sound_empty format
  | disbursements => exact Disbursement.sound_empty format
  | delegations => exact Delegation.register.orderly_empty 3 format

/-- An orderly book holds records. -/
theorem Orderly.keeps {b : Book} {format : AddressFormat} {entries : Entries}
    (h : b.Orderly format entries) : ∃ c, b.register.Keeps format entries c := by
  cases b with
  | scorecards => exact h.imp fun c hc => hc.1
  | budgets => exact h.imp fun c hc => hc.1
  | procurements => exact h.imp fun c hc => hc.1
  | disbursements =>
    obtain ⟨c, t, keeps, -⟩ := h
    exact ⟨c, keeps.register⟩
  | delegations => exact h.imp fun c hc => hc.1

/-- Loading an export keeps a book in order. -/
theorem Orderly.load {b : Book} {format : AddressFormat} {store : Store}
    (h : b.Orderly format store.entries) {x : b.Extract} {batch : Batch}
    (planned : b.load format store x = .ok ((), batch)) :
    b.Orderly format (store.entries.apply batch) := by
  cases b with
  | scorecards => exact Register.Orderly.load h Scorecard.hasIndex planned
  | budgets => exact Register.Sound.load h (by decide) planned
  | procurements => exact Register.Sound.load h (by decide) planned
  | disbursements => exact Disbursement.Sound.load h planned
  | delegations => exact Register.Orderly.load h Delegation.hasIndex planned

/-- A change other than loading keeps a book in order. -/
theorem Orderly.change {b : Book} {format : AddressFormat} {sources : Sources} {store : Store}
    (h : b.Orderly format store.entries) (within : store.entries.Within (Bytes.reach 8))
    {batch : Batch} (changes : b.Changes format sources store batch) :
    b.Orderly format (store.entries.apply batch) := by
  cases b with
  | scorecards =>
    obtain ⟨card, id, planned⟩ := changes
    exact Register.Orderly.enter h Scorecard.hasIndex (Scorecard.spares _) planned
  | budgets => exact Sound.change (b := .budgets) h within changes
  | procurements => exact Sound.change (b := .procurements) h within changes
  | disbursements => exact Sound.change (b := .disbursements) h within changes
  | delegations =>
    rcases changes with ⟨d, id, planned⟩ | ⟨id, d, planned⟩
    · exact Register.Orderly.enter h Delegation.hasIndex (Delegation.spares _ true) planned
    · obtain ⟨d, found, rfl | rfl⟩ := Delegation.deactivate_eq_ok planned
      · exact h
      · exact Register.Orderly.replace h Delegation.hasIndex within (Delegation.spares _ false)
          found

end Book

namespace Ledger

/-- Every book is in order. -/
def Orderly (ledger : Ledger) : Prop :=
  ∀ b : Book, b.Orderly ledger.policy.addresses (ledger.store b).entries

/-- An unused ledger is in order. -/
theorem Blank.orderly {ledger : Ledger} (h : ledger.Blank) : ledger.Orderly := by
  intro b
  rw [h b]
  exact b.orderly_empty _

/-- **Whatever happens to a ledger in order**, it is in order afterwards. -/
theorem Orderly.undergo {ledger : Ledger} (h : ledger.Orderly)
    (within : ledger.Within (Bytes.reach 8)) (e : Event) : (ledger.undergo e).Orderly := by
  have policy : (ledger.undergo e).policy = ledger.policy := ledger.policy_history [e]
  intro b
  rw [policy]
  rcases ledger.entries_undergo e b with
    same | ⟨sources, op, -, rfl, answer, batch, planned, written⟩
  · rw [same]
    exact h b
  · rw [written]
    rcases Operation.plan_eq_ok planned with ⟨-, x, loaded⟩ | ⟨-, changes⟩
    · exact (h op.book).load loaded
    · exact (h op.book).change (within op.book) changes

/-- A ledger in order stays in order. -/
theorem Orderly.history {ledger : Ledger} (h : ledger.Orderly) {events : List Event}
    (within : ∀ front, front <+: events → (ledger.history front).Within (Bytes.reach 8)) :
    (ledger.history events).Orderly :=
  history_induction (P := Orderly) (fun front e happens orderly =>
    orderly.undergo (within front ((List.prefix_append front [e]).trans happens)) e) h

/-- **A ledger that started unused is in order.** -/
theorem Blank.orderly_history {start : Ledger} (blank : start.Blank) {events : List Event}
    (within : ∀ front, front <+: events → (start.history front).Within (Bytes.reach 8)) :
    (start.history events).Orderly :=
  blank.orderly.history within

/-- Loading a document keeps a ledger in order. -/
theorem Orderly.load {ledger : Ledger} (h : ledger.Orderly)
    (within : ledger.Within (Bytes.reach 8)) (g : Genesis) : (ledger.load g).2.Orderly := by
  rw [← step_load_snd]
  exact h.undergo within (.step (.load g))

/-- The records that a ledger in order holds can be read, as if nothing went wrong in its stores. -/
theorem Orderly.all {ledger : Ledger} (h : ledger.Orderly) (within : ledger.Within (Bytes.reach 8))
    (b : Book) :
    ∃ c, b.register.Keeps ledger.policy.addresses (ledger.store b).entries c ∧
      b.register.all (ledger.store b).mended = .ok c.records.values := by
  obtain ⟨c, keeps⟩ := (h b).keeps
  have mended : b.register.Keeps ledger.policy.addresses (ledger.store b).mended.entries c := keeps
  exact ⟨c, keeps, mended.all (within b) (ledger.store b).healthy_mended⟩

end Ledger

end PublicFunds
