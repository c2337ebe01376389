import Mathlib.Data.List.Infix
import PublicFunds.Proofs.Disbursement.Acceptance
import PublicFunds.Proofs.Ledger.Coverage
import PublicFunds.Proofs.Ledger.Legible
import PublicFunds.Proofs.Ledger.Orderly
import PublicFunds.Proofs.Ledger.Reproduction
import PublicFunds.Proofs.Ledger.TornLoad

/-!
# Which documents an unused ledger accepts, and what it makes of them

A document goes through two passes, each of which checks it section by section, and what is checked
is spread over records, ids, pairs and totals.  All in all an unused ledger accepts exactly the
documents that are well formed, and this can be said of the document alone.  It then holds exactly
the document: what it exports is the document with everything in order.  A document that it does not
accept leaves it as it was.

It makes no difference how the ledger came to be unused, for instance by loading an empty document
or by changes that failed.

* `Genesis.WellFormed`, `Genesis.Rearranges`: the documents that are accepted, and documents that
  differ in the order of records and totals.
* `Genesis.arranged`: what is exported.
* `Ledger.accept_history`: acceptance, export and refusal.
-/

namespace PublicFunds

/-! ## Sections -/

namespace Book

/-- A section of a book that could have been exported. -/
def WellFormed : (b : Book) → AddressFormat → b.Extract → Prop
  | .scorecards, format, s => s.WellFormed format ∧ (s.records.map Paired.pair).Nodup
  | .budgets, format, s => s.WellFormed format
  | .procurements, format, s => s.WellFormed format
  | .disbursements, format, s => s.toSection.WellFormed format ∧ s.Balanced
  | .delegations, format, s => s.WellFormed format ∧ (s.records.map Paired.pair).Nodup

/-- A section of a book whose records and totals stand in another order. -/
def Rearranges : (b : Book) → b.Extract → b.Extract → Prop
  | .scorecards, s, t => Section.Rearranges s t
  | .budgets, s, t => Section.Rearranges s t
  | .procurements, s, t => Section.Rearranges s t
  | .disbursements, s, t => DisbursementSection.Rearranges s t
  | .delegations, s, t => Section.Rearranges s t

/-- A section of a book with everything in order. -/
def arranged : (b : Book) → b.Extract → b.Extract
  | .scorecards, s => s.arranged
  | .budgets, s => s.arranged
  | .procurements, s => s.arranged
  | .disbursements, s => s.arranged
  | .delegations, s => s.arranged

variable {b : Book} {format : AddressFormat} {store : Store}

/-- An unused book accepts exactly the well-formed sections. -/
theorem load_isOk_iff (unused : b.IsUnused store) {x : b.Extract} :
    (∃ batch, b.load format store x = .ok ((), batch)) ↔ b.WellFormed format x := by
  cases b with
  | scorecards => exact Register.loadVettedPaired_isOk_iff rfl unused
  | budgets => exact Register.loadVetted_isOk_iff unused
  | procurements => exact Register.loadVetted_isOk_iff unused
  | disbursements => exact Disbursement.load_isOk_iff unused
  | delegations => exact Register.loadVettedPaired_isOk_iff rfl unused

theorem Rearranges.wellFormed {x y : b.Extract} (h : b.Rearranges x y)
    (fine : b.WellFormed format x) : b.WellFormed format y := by
  cases b with
  | scorecards =>
    exact ⟨Section.Rearranges.wellFormed h fine.1, ((h.records.map _).nodup_iff).1 fine.2⟩
  | budgets => exact Section.Rearranges.wellFormed h fine
  | procurements => exact Section.Rearranges.wellFormed h fine
  | disbursements =>
    exact ⟨h.toSection.wellFormed fine.1, DisbursementSection.Rearranges.balanced h fine.2⟩
  | delegations =>
    exact ⟨Section.Rearranges.wellFormed h fine.1, ((h.records.map _).nodup_iff).1 fine.2⟩

theorem Rearranges.arranged_eq {x y : b.Extract} (h : b.Rearranges x y)
    (fine : b.WellFormed format x) : b.arranged y = b.arranged x := by
  cases b with
  | scorecards => exact Section.Rearranges.arranged_eq h fine.1
  | budgets => exact Section.Rearranges.arranged_eq h fine
  | procurements => exact Section.Rearranges.arranged_eq h fine
  | disbursements => exact DisbursementSection.Rearranges.arranged_eq h fine.1
  | delegations => exact Section.Rearranges.arranged_eq h fine.1

/-- A book in order that a section has been loaded into exports the section in order. -/
theorem Orderly.extract_of_load (h : b.Orderly format store.entries) {x : b.Extract} {batch : Batch}
    (planned : b.load format store x = .ok ((), batch)) {after : Store}
    (written : after.entries = store.entries.apply batch)
    (within : after.entries.Within (Bytes.reach 8)) (legible : b.Legible after) :
    b.extract after = .ok (b.arranged x) := by
  have healthy := after.healthy_mended
  rw [extract_congr (t := after.mended) legible (legible_of_healthy healthy) rfl]
  cases b with
  | scorecards =>
    obtain ⟨c, keeps, -⟩ := h
    exact keeps.extract_of_loadPaired Scorecard.hasIndex planned written within healthy
  | budgets =>
    obtain ⟨c, keeps, -⟩ := h
    exact keeps.extract_of_load (by decide) planned written within healthy
  | procurements =>
    obtain ⟨c, keeps, -⟩ := h
    exact keeps.extract_of_load (by decide) planned written within healthy
  | disbursements =>
    obtain ⟨c, t, keeps, -⟩ := h
    exact keeps.extract_of_load planned written within healthy
  | delegations =>
    obtain ⟨c, keeps, -⟩ := h
    exact keeps.extract_of_loadPaired Delegation.hasIndex planned written within healthy

end Book

/-! ## Documents -/

namespace Genesis

/-- A document that could have been exported.  In each section the records pass their checks, and
their ids are different and not above the last.  No two scorecards and no two delegations have one
pair.  The totals name no procurement twice and say what the disbursements come to. -/
def WellFormed (format : AddressFormat) (g : Genesis) : Prop :=
  ∀ b : Book, b.WellFormed format (g.extract b)

/-- A document whose records and totals stand in another order. -/
def Rearranges (g h : Genesis) : Prop := ∀ b : Book, b.Rearranges (g.extract b) (h.extract b)

/-- The document with its records in the order of their ids, and with a total for each procurement
that something was paid out for, in their order. -/
def arranged (g : Genesis) : Genesis :=
  ⟨g.scorecards.arranged, g.budgets.arranged, g.procurements.arranged, g.disbursements.arranged,
    g.delegations.arranged⟩

theorem extract_arranged (g : Genesis) (b : Book) :
    g.arranged.extract b = b.arranged (g.extract b) := by
  cases b <;> rfl

/-- Documents with the same sections are the same. -/
theorem ext_extract {g h : Genesis} (same : ∀ b, g.extract b = h.extract b) : g = h := by
  cases g
  cases h
  cases same .scorecards
  cases same .budgets
  cases same .procurements
  cases same .disbursements
  cases same .delegations
  rfl

namespace Rearranges

variable {format : AddressFormat} {g h : Genesis}

theorem wellFormed (same : g.Rearranges h) (fine : g.WellFormed format) : h.WellFormed format :=
  fun b => (same b).wellFormed (fine b)

theorem arranged_eq (same : g.Rearranges h) (fine : g.WellFormed format) :
    h.arranged = g.arranged := by
  refine ext_extract fun b => ?_
  rw [extract_arranged, extract_arranged]
  exact (same b).arranged_eq (fine b)

end Rearranges

end Genesis

/-! ## Ledgers -/

namespace Ledger

/-- A document is exported in order after it has been loaded. -/
theorem extract_of_load {ledger after : Ledger} {g : Genesis}
    (loaded : ledger.load g = (.ok (), after)) (orderly : ledger.Orderly)
    (within : after.Within (Bytes.reach 8)) (legible : after.Legible) :
    after.extract = .ok g.arranged := by
  have books : ∀ b, after.extractBook b = .ok (b.arranged (g.extract b)) := by
    intro b
    obtain ⟨batch, planned, written⟩ := entries_load_of_ok loaded b
    rw [extractBook, (orderly b).extract_of_load planned written (within b) (legible b)]
    rfl
  obtain ⟨g', extracted, sections⟩ := extract_of_books fun b => ⟨_, books b⟩
  rw [extracted]
  refine congrArg Except.ok (Genesis.ext_extract fun b => ?_)
  rw [Genesis.extract_arranged]
  exact Except.ok.inj ((sections b).symm.trans (books b))

/-- No book was ever used. -/
def IsUnused (ledger : Ledger) : Prop := ∀ b : Book, b.IsUnused (ledger.store b)

/-- A document that a ledger loads meets no book that is in use. -/
theorem isUnused_of_load {ledger after : Ledger} {g : Genesis}
    (loaded : ledger.load g = (.ok (), after)) : ledger.IsUnused := by
  intro b
  obtain ⟨batch, planned, -⟩ := entries_load_of_ok loaded b
  exact (Book.exists_of_load planned).1

namespace IsUnused

variable {ledger : Ledger} {g : Genesis}

theorem inMemory (policy : Policy) : (inMemory policy).IsUnused := by
  intro b
  cases b <;> rfl

theorem loadPlan_isOk_iff (h : ledger.IsUnused) (b : Book) :
    (∃ batch, ledger.loadPlan g b = .ok ((), batch)) ↔
      b.WellFormed ledger.policy.addresses (g.extract b) :=
  Book.load_isOk_iff (h b)

/-- The rehearsal accepts exactly the well-formed documents. -/
theorem rehearsal_iff (policy : Policy) :
    ((Ledger.inMemory policy).loadBooks g Book.all).1 = .ok () ↔ g.WellFormed policy.addresses := by
  constructor
  · intro rehearsed b
    exact ((inMemory policy).loadPlan_isOk_iff b).1 (loadPlan_inMemory_of_ok rehearsed b)
  · intro fine
    refine ((healthy_inMemory policy).writable.loadBooks_of_ok Book.nodup_all fun b _ => ?_).1
    exact ((inMemory policy).loadPlan_isOk_iff b).2 (fine b)

/-- A well-formed document is loaded. -/
theorem load_of_wellFormed (h : ledger.IsUnused) (writable : ledger.Writable)
    (fine : g.WellFormed ledger.policy.addresses) : (ledger.load g).1 = .ok () := by
  rw [load_of_ok ((rehearsal_iff ledger.policy).2 fine)]
  refine (writable.loadBooks_of_ok Book.nodup_all fun b _ => ?_).1
  exact (h.loadPlan_isOk_iff b).2 (fine b)

/-- Any other document leaves the ledger as it was. -/
theorem load_of_not_wellFormed (bad : ¬ g.WellFormed ledger.policy.addresses) :
    ∃ e, ledger.load g = (.error e, ledger) := by
  cases rehearsed : ((Ledger.inMemory ledger.policy).loadBooks g Book.all).1 with
  | error e => exact ⟨e, load_of_error rehearsed⟩
  | ok u => exact absurd ((rehearsal_iff ledger.policy).1 rehearsed) bad

/-- An unused ledger accepts exactly the well-formed documents. -/
theorem load_isOk_iff (h : ledger.IsUnused) (writable : ledger.Writable) :
    (ledger.load g).1 = .ok () ↔ g.WellFormed ledger.policy.addresses := by
  refine ⟨fun loaded => Classical.byContradiction fun bad => ?_, h.load_of_wellFormed writable⟩
  obtain ⟨e, refused⟩ := load_of_not_wellFormed bad
  rw [refused] at loaded
  cases loaded

/-- A well-formed document is exported in order after it has been loaded. -/
theorem extract_load (h : ledger.IsUnused) (orderly : ledger.Orderly) (healthy : ledger.Healthy)
    (fine : g.WellFormed ledger.policy.addresses)
    (within : (ledger.load g).2.Within (Bytes.reach 8)) :
    (ledger.load g).2.extract = .ok g.arranged :=
  extract_of_load (Prod.ext (h.load_of_wellFormed healthy.writable fine) rfl) orderly within
    (healthy.load g).legible

end IsUnused

/-- **An unused ledger accepts exactly the well-formed documents, and then holds exactly them.**
Whatever happened to the ledger since it started, no record is in it now and no id was given out,
and nothing goes wrong in its stores.  Then a document is loaded exactly if it is well formed.  What
is exported afterwards is the document in order, and the same is exported after loading any document
that differs from it in the order of records and totals only.  A document that is not loaded leaves
the ledger as it was. -/
theorem accept_history {start : Ledger} (blank : start.Blank) {events : List Event}
    (within : ∀ front, front <+: events → (start.history front).Within (Bytes.reach 8))
    (healthy : (start.history events).Healthy) (unused : (start.history events).IsUnused)
    (g : Genesis) :
    (((start.history events).load g).1 = .ok () ↔ g.WellFormed start.policy.addresses) ∧
      (((start.history events).load g).1 = .ok () →
        ((start.history events).load g).2.Within (Bytes.reach 8) →
        ((start.history events).load g).2.extract = .ok g.arranged) ∧
      (((start.history events).load g).1 = .ok () → ∀ h, g.Rearranges h →
        ((start.history events).load h).1 = .ok () ∧
          (((start.history events).load h).2.Within (Bytes.reach 8) →
            ((start.history events).load h).2.extract = .ok g.arranged)) ∧
      (((start.history events).load g).1 ≠ .ok () →
        ((start.history events).load g).2 = start.history events) := by
  have orderly := blank.orderly_history within
  rw [← start.policy_history events]
  generalize start.history events = ledger at *
  have accepts : ∀ h, (ledger.load h).1 = .ok () ↔ h.WellFormed ledger.policy.addresses :=
    fun h => unused.load_isOk_iff healthy.writable
  refine ⟨accepts g, fun loaded later => ?_, fun loaded h same => ?_, fun failed => ?_⟩
  · exact unused.extract_load orderly healthy ((accepts g).1 loaded) later
  · have fine := (accepts g).1 loaded
    have fine' := same.wellFormed fine
    refine ⟨(accepts h).2 fine', fun later => ?_⟩
    rw [← same.arranged_eq fine]
    exact unused.extract_load orderly healthy fine' later
  · obtain ⟨e, refused⟩ := IsUnused.load_of_not_wellFormed (mt (accepts g).2 failed)
    rw [refused]

/-- What leaves a ledger unused: an empty document is loaded, and a procurement is entered for which
there is no budget. -/
def roadsRefused : List Event := [
  .step (.load .empty),
  .step (.operate (.enterProcurement (.planned 1 "A1" "works" "roads" (units 10) "EUR" "xaa")))]

/-- A document with two disbursements, the second one first.  One of its totals is zero. -/
def scatteredPayments : Genesis :=
  { Genesis.empty with
    disbursements := ⟨[{ Disbursement.scheduled 5 (units 7) "EUR" "xbb" with id := 2 },
        { Disbursement.scheduled 3 (units 4) "EUR" "xbb" with id := 1 }], 4,
      [⟨5, units 7⟩, ⟨9, units 0⟩, ⟨3, units 4⟩]⟩ }

/-- The document is well formed, and it is exported in order. -/
theorem accept_scatteredPayments :
    scatteredPayments.WellFormed shortAddresses.addresses ∧
      (((inMemory shortAddresses).history roadsRefused).load scatteredPayments).2.extract =
        .ok scatteredPayments.arranged ∧
      scatteredPayments.arranged.disbursements.records.map (·.id) = [1, 2] ∧
      scatteredPayments.arranged.disbursements.totals = [⟨3, units 4⟩, ⟨5, units 7⟩] := by
  have short : ∀ front ∈ roadsRefused.inits,
      ((inMemory shortAddresses).history front).Within (Bytes.reach 8) := by decide +kernel
  have healthy : ((inMemory shortAddresses).history roadsRefused).Healthy :=
    (healthy_inMemory _).run [.load .empty,
      .operate (.enterProcurement (.planned 1 "A1" "works" "roads" (units 10) "EUR" "xaa"))]
  have unused : ((inMemory shortAddresses).history roadsRefused).IsUnused := by
    have books : ∀ b ∈ Book.all, b.register.isEmpty
        (((inMemory shortAddresses).history roadsRefused).store b) = .ok true := by decide +kernel
    exact fun b => books b b.mem_all
  have loaded : (((inMemory shortAddresses).history roadsRefused).load scatteredPayments).1 =
      .ok () := by decide +kernel
  have later : (((inMemory shortAddresses).history roadsRefused).load scatteredPayments).2.Within
      (Bytes.reach 8) := by decide +kernel
  obtain ⟨accepted, exported, -, -⟩ := @accept_history _ (blank_inMemory shortAddresses)
    roadsRefused (fun front happens => short front ((List.mem_inits _ _).2 happens)) healthy unused
    scatteredPayments
  exact ⟨accepted.1 loaded, exported loaded later, by decide +kernel, by decide +kernel⟩

end Ledger

end PublicFunds
