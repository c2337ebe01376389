import Mathlib.Data.List.Infix
import PublicFunds.Proofs.Ledger.Acceptance

/-!
# Documents that overdraw a procurement

A disbursement is entered only if its procurement can still pay for it.  A document that is loaded
does not go through this check.  Its disbursements are held against the totals that come with them,
and never against the procurements, which are in a section of their own and in another store.

So nothing is said about the amounts of the procurements when a document is accepted, except that
none of them is zero.  A ledger that a document has been loaded into is overdrawn exactly if the
document is.

* `Genesis.RespectsCaps`, `Ledger.RespectsCaps`: no procurement is overdrawn.
* `Genesis.WellFormed.repriced`: amounts of procurements do not matter for acceptance.
* `Ledger.respectsCaps_load_iff`: when a loaded ledger is not overdrawn.
* `Ledger.not_forall_load_respectsCaps`: a document that overdraws a procurement.
-/

namespace PublicFunds

namespace Genesis

/-- The disbursements of a document come to at most the amount of each of its procurements. -/
def RespectsCaps (g : Genesis) : Prop :=
  ∀ p ∈ g.procurements.records,
    Disbursement.paidFor p.id g.disbursements.records ≤ p.amount.toNat

instance (g : Genesis) : Decidable g.RespectsCaps :=
  inferInstanceAs (Decidable (∀ p ∈ g.procurements.records,
    Disbursement.paidFor p.id g.disbursements.records ≤ p.amount.toNat))

/-- The document with other amounts for its procurements. -/
def repriced (amount : Procurement → Amount) (g : Genesis) : Genesis :=
  { g with
    procurements := ⟨g.procurements.records.map fun p => { p with amount := amount p },
      g.procurements.count⟩ }

end Genesis

/-- A procurement that passes its checks passes them with any amount that is not zero. -/
theorem Procurement.check_withAmount {format : AddressFormat} {p : Procurement}
    (h : Vetted.check format p = .ok ()) {amount : Amount} (positive : amount ≠ .zero) :
    Vetted.check format { p with amount := amount } = .ok () := by
  obtain ⟨hid, fields⟩ := Vetted.of_check h
  have passed := Check.all_eq_ok_iff.1 fields
  unfold Vetted.check
  split
  · next zero => exact absurd zero hid
  · -- the amount is looked at by one check only
    refine Check.all_eq_ok_iff.2 ?_
    simp only [List.forall_mem_cons] at passed ⊢
    obtain ⟨budget, reference, agency, title, -, others⟩ := passed
    exact ⟨budget, reference, agency, title, Check.require_eq_ok.2 (bne_iff_ne.2 positive), others⟩

/-- **Amounts of procurements do not matter** for whether a document is well formed, as long as none
is zero. -/
theorem Genesis.WellFormed.repriced {format : AddressFormat} {g : Genesis}
    (fine : g.WellFormed format) {amount : Procurement → Amount}
    (positive : ∀ p, amount p ≠ .zero) : (g.repriced amount).WellFormed format := by
  intro b
  cases b with
  | scorecards => exact fine .scorecards
  | budgets => exact fine .budgets
  | procurements =>
    obtain ⟨checked, distinct, given⟩ := fine .procurements
    refine ⟨fun x hx => ?_, ?_, fun x hx => ?_⟩
    · obtain ⟨p, hp, rfl⟩ := List.mem_map.1 hx
      exact Procurement.check_withAmount (checked p hp) (positive p)
    · show ((g.procurements.records.map _).map Record.id).Nodup
      rw [List.map_map]
      exact distinct
    · obtain ⟨p, hp, rfl⟩ := List.mem_map.1 hx
      exact given p hp
  | disbursements => exact fine .disbursements
  | delegations => exact fine .delegations

namespace Ledger

/-- What has been disbursed for a procurement that is stored is at most its amount.  This is about
what the stores hold, as if nothing went wrong in them. -/
def RespectsCaps (ledger : Ledger) : Prop :=
  ∃ ps, Procurement.register.all ledger.procurements.mended = .ok ps ∧
    ∀ p ∈ ps, ∃ total, Disbursement.total ledger.disbursements.mended p.id = .ok total ∧
      total ≤ p.amount

/-- A ledger in order that has loaded a document is overdrawn exactly if the document is. -/
theorem Orderly.respectsCaps_iff_of_load {ledger after : Ledger} (orderly : ledger.Orderly)
    {g : Genesis} (loaded : ledger.load g = (.ok (), after))
    (within : after.Within (Bytes.reach 8)) : after.RespectsCaps ↔ g.RespectsCaps := by
  obtain ⟨_, hprocurements, written⟩ := entries_load_of_ok loaded .procurements
  obtain ⟨_, hdisbursements, written'⟩ := entries_load_of_ok loaded .disbursements
  obtain ⟨c, procurements, -⟩ := orderly .procurements
  obtain ⟨d, t, disbursements, -⟩ := orderly .disbursements
  obtain ⟨ids, -, ps⟩ := procurements.load (by decide) hprocurements 1
  obtain ⟨ids', -, sums, ds⟩ := disbursements.load hdisbursements
  rw [← written] at ps
  rw [← written'] at ds
  -- both books hold their sections, in the order of the ids
  have listed := Register.Contents.values_ofSection ids
  have all : Procurement.register.all after.procurements.mended =
      .ok (Register.Contents.ofSection g.procurements).records.values :=
    Register.Keeps.all ps (within .procurements) rfl
  have mended : Disbursement.Keeps ledger.policy.addresses after.disbursements.mended.entries
      (.ofSection g.disbursements.toSection) sums := ds
  have paid : ∀ p : RecordId, ∃ total,
      Disbursement.total after.disbursements.mended p = .ok total ∧
        total.toNat = Disbursement.paidFor p g.disbursements.records := by
    intro p
    refine ⟨_, mended.total_eq (within .disbursements) rfl p, ?_⟩
    rw [show ((sums.get? p).getD .zero).toNat = sums.paid p from rfl, ds.sums.sum]
    exact Disbursement.paidFor_perm p (Register.Contents.values_ofSection ids')
  constructor
  · rintro ⟨ps', all', caps⟩ p hp
    cases all.symm.trans all'
    obtain ⟨total, found, le⟩ := caps p (listed.mem_iff.2 hp)
    obtain ⟨total', found', sum⟩ := paid p.id
    cases found.symm.trans found'
    exact sum ▸ le
  · refine fun caps => ⟨_, all, fun p hp => ?_⟩
    obtain ⟨total, found, sum⟩ := paid p.id
    exact ⟨total, found, show total.toNat ≤ _ from sum ▸ caps p (listed.mem_iff.1 hp)⟩

/-- **When a loaded ledger is not overdrawn.**  Whatever happened before to a ledger that started
unused, if it loads a document then no procurement is overdrawn afterwards exactly if none is in the
document.  Nothing keeps such a document out: if it is loaded by a ledger in which nothing goes
wrong, then so is every other one in which only the amounts of the procurements differ and none of
them is zero. -/
theorem respectsCaps_load_iff {start : Ledger} (blank : start.Blank) {events : List Event}
    (within : ∀ front, front <+: events → (start.history front).Within (Bytes.reach 8))
    {g : Genesis} (loaded : ((start.history events).load g).1 = .ok ())
    (later : ((start.history events).load g).2.Within (Bytes.reach 8)) :
    (((start.history events).load g).2.RespectsCaps ↔ g.RespectsCaps) ∧
      ((start.history events).Healthy →
        ∀ amount : Procurement → Amount, (∀ p, amount p ≠ .zero) →
          ((start.history events).load (g.repriced amount)).1 = .ok ()) := by
  have orderly := blank.orderly_history within
  generalize start.history events = ledger at *
  have accepted : ledger.load g = (.ok (), (ledger.load g).2) := Prod.ext loaded rfl
  refine ⟨orderly.respectsCaps_iff_of_load accepted later, fun healthy amount positive => ?_⟩
  have unused := isUnused_of_load accepted
  exact unused.load_of_wellFormed healthy.writable
    (((unused.load_isOk_iff healthy.writable).1 loaded).repriced positive)

/-- A document in which a procurement about seven units has paid eight. -/
def overdrawnRoads : Genesis :=
  { Genesis.empty with
    budgets := ⟨[{ Budget.drafted "works" "2025" "roads" (units 12) "EUR" "xaa" with id := 1 }], 1⟩
    procurements :=
      ⟨[{ Procurement.planned 1 "A1" "works" "roads" (units 7) "EUR" "xaa" with id := 1 }], 1⟩
    disbursements :=
      ⟨[{ Disbursement.scheduled 1 (units 8) "EUR" "xbb" with id := 1 }], 1, [⟨1, units 8⟩]⟩ }

/-- The document is loaded, and the ledger is overdrawn. -/
theorem not_respectsCaps_overdrawnRoads :
    ((inMemory shortAddresses).load overdrawnRoads).1 = .ok () ∧
      ¬ ((inMemory shortAddresses).load overdrawnRoads).2.RespectsCaps := by
  have loaded : ((inMemory shortAddresses).load overdrawnRoads).1 = .ok () := by decide +kernel
  have later : ((inMemory shortAddresses).load overdrawnRoads).2.Within (Bytes.reach 8) := by
    decide +kernel
  have short : ∀ front, front <+: [] →
      ((inMemory shortAddresses).history front).Within (Bytes.reach 8) := by
    intro front happens
    rw [List.prefix_nil.1 happens]
    decide +kernel
  have overdrawn : ¬ overdrawnRoads.RespectsCaps := by decide +kernel
  exact ⟨loaded, fun caps => overdrawn ((@respectsCaps_load_iff _ (blank_inMemory shortAddresses) []
    short overdrawnRoads loaded later).1.1 caps)⟩

/-- **Loading a document can overdraw a procurement.** -/
theorem not_forall_load_respectsCaps :
    ¬ ∀ (policy : Policy) (g : Genesis), ((inMemory policy).load g).1 = .ok () →
      ((inMemory policy).load g).2.RespectsCaps := by
  intro capped
  have loaded : ((inMemory shortAddresses).load overdrawnRoads).1 = .ok () := by decide +kernel
  have all : Procurement.register.all
      ((inMemory shortAddresses).load overdrawnRoads).2.procurements.mended =
        .ok overdrawnRoads.procurements.records := by decide +kernel
  have paid : Disbursement.total
      ((inMemory shortAddresses).load overdrawnRoads).2.disbursements.mended 1 =
        .ok (units 8) := by decide +kernel
  obtain ⟨ps, all', caps⟩ := capped shortAddresses overdrawnRoads loaded
  cases all.symm.trans all'
  obtain ⟨total, paid', le⟩ := caps _ (List.mem_singleton_self _)
  cases paid.symm.trans paid'
  exact absurd le (by decide +kernel)

end Ledger

end PublicFunds
