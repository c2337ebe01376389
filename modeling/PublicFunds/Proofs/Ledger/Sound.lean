import PublicFunds.Proofs.Disbursement.Keeping
import PublicFunds.Proofs.Ledger.Change

/-!
# Ledgers stay sound

Each book of a ledger is sound in its own way, and every operation keeps the book sound that it
concerns.  So a ledger that started unused is sound after every history, whatever was asked of it,
whatever failed, and wherever records of other books were looked up.

Lengths are stored in eight bytes, and those of names in four.  A history is followed as long as no
key and no value in a store gets too long for these.

* `Book.Sound`, `Ledger.Sound`: soundness of a book and of all books.
* `Book.Sound.plan`: an operation keeps its book sound.
* `Ledger.Sound.history`: soundness after a history.
-/

namespace PublicFunds

/-! ## Books -/

theorem Scorecard.hasIndex : Scorecard.register.HasIndex 3 :=
  ⟨rfl, by decide, by decide, by decide⟩

theorem Delegation.hasIndex : Delegation.register.HasIndex 3 :=
  ⟨rfl, by decide, by decide, by decide⟩

/-- A scorecard is entered as it is. -/
theorem Scorecard.spares (format : AddressFormat) :
    Register.Spares format fun card : Scorecard => card :=
  ⟨fun _ => rfl, fun _ => rfl, fun _ => rfl⟩

/-- It does not matter for a delegation whether it is active. -/
theorem Delegation.spares (format : AddressFormat) (active : Bool) :
    Register.Spares format fun d : Delegation => { d with active := active } :=
  ⟨fun _ => rfl, fun _ => rfl, fun _ => rfl⟩

namespace Book

/-- The entries of a store are those of a book. -/
def Sound : Book → AddressFormat → Entries → Prop
  | .scorecards => Scorecard.register.SoundPaired 3
  | .budgets => Budget.register.Sound
  | .procurements => Procurement.register.Sound
  | .disbursements => Disbursement.Sound
  | .delegations => Delegation.register.SoundPaired 3

theorem sound_empty (b : Book) (format : AddressFormat) : b.Sound format .empty := by
  cases b with
  | scorecards => exact Scorecard.register.soundPaired_empty 3 format
  | budgets => exact Budget.register.sound_empty format
  | procurements => exact Procurement.register.sound_empty format
  | disbursements => exact Disbursement.sound_empty format
  | delegations => exact Delegation.register.soundPaired_empty 3 format

/-- Loading an export keeps a book sound. -/
theorem Sound.load {b : Book} {format : AddressFormat} {store : Store}
    (h : b.Sound format store.entries) {x : b.Extract} {batch : Batch}
    (planned : b.load format store x = .ok ((), batch))
    (after : (store.entries.apply batch).Within (Bytes.reach 4)) :
    b.Sound format (store.entries.apply batch) := by
  cases b with
  | scorecards => exact Register.SoundPaired.load h Scorecard.hasIndex planned after
  | budgets => exact Register.Sound.load h (by decide) planned
  | procurements => exact Register.Sound.load h (by decide) planned
  | disbursements => exact Disbursement.Sound.load h planned
  | delegations => exact Register.SoundPaired.load h Delegation.hasIndex planned after

/-- A change other than loading keeps a book sound. -/
theorem Sound.change {b : Book} {format : AddressFormat} {sources : Sources} {store : Store}
    (h : b.Sound format store.entries) (within : store.entries.Within (Bytes.reach 8))
    {batch : Batch} (changes : b.Changes format sources store batch) :
    b.Sound format (store.entries.apply batch) := by
  cases b with
  | scorecards =>
    obtain ⟨card, id, planned⟩ := changes
    exact Register.SoundPaired.enter h Scorecard.hasIndex within (Scorecard.spares _) planned
  | budgets =>
    rcases changes with ⟨b, id, planned⟩ | revises
    · obtain ⟨y, -, checked, added⟩ := Budget.enter_eq_ok planned
      exact Register.Sound.add h (by decide) rfl checked added
    · exact Register.Sound.revise h within revises
  | procurements =>
    rcases changes with ⟨p, id, planned⟩ | revises
    · obtain ⟨b, y, -, checked, -, added⟩ := Procurement.enter_eq_ok planned
      exact Register.Sound.add h (by decide) rfl checked added
    · exact Register.Sound.revise h within revises
  | disbursements =>
    rcases changes with ⟨d, id, planned⟩ | revises
    · exact Disbursement.Sound.enter h within planned
    · exact Disbursement.Sound.revise h within revises
  | delegations =>
    rcases changes with ⟨d, id, planned⟩ | ⟨id, d, planned⟩
    · exact Register.SoundPaired.enter h Delegation.hasIndex within (Delegation.spares _ true)
        planned
    · obtain ⟨d, found, rfl | rfl⟩ := Delegation.deactivate_eq_ok planned
      · exact h
      · exact Register.SoundPaired.replace h Delegation.hasIndex within (Delegation.spares _ false)
          found

/-- **An operation keeps its book sound.** -/
theorem Sound.plan {policy : Policy} {sources : Sources} {store : Store} {op : Operation}
    (h : op.book.Sound policy.addresses store.entries)
    (before : store.entries.Within (Bytes.reach 4)) {answer : Outcome} {batch : Batch}
    (planned : op.plan policy sources store = .ok (answer, batch))
    (after : (store.entries.apply batch).Within (Bytes.reach 4)) :
    op.book.Sound policy.addresses (store.entries.apply batch) := by
  rcases Operation.plan_eq_ok planned with ⟨-, x, loaded⟩ | ⟨-, changes⟩
  · exact h.load loaded after
  · exact h.change (before.mono (by decide)) changes

end Book

namespace Ledger

/-! ## Soundness over time -/

/-- Every book is sound. -/
def Sound (ledger : Ledger) : Prop :=
  ∀ b : Book, b.Sound ledger.policy.addresses (ledger.store b).entries

theorem Blank.sound {ledger : Ledger} (h : ledger.Blank) : ledger.Sound := by
  intro b
  rw [h b]
  exact b.sound_empty _

/-- **A ledger that is sound stays sound.** -/
theorem Sound.history {ledger : Ledger} {events : List Event} (h : ledger.Sound)
    (within : ∀ front, front <+: events → (ledger.history front).Within (Bytes.reach 4)) :
    (ledger.history events).Sound := by
  unfold Sound
  rw [policy_history]
  refine entries_history h fun front e happens op _ _ _ _ planned written sound => ?_
  have before := within front ((List.prefix_append front [e]).trans happens) op.book
  have after := within (front ++ [e]) happens op.book
  rw [written] at after
  exact Book.Sound.plan sound before planned after

end Ledger

end PublicFunds
