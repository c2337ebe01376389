import PublicFunds.Proofs.Ledger.Validity
import PublicFunds.Proofs.Ledger.Writing
import PublicFunds.Proofs.Lifecycle.Continuity

/-!
# What is on record stays on record

Budgets, procurements and disbursements are the memory of a ledger.  Once one of them is stored, it
is stored for good under its id, and says what it said: for what and for whom the money was meant,
and how much it was.  What may still happen to it is that it goes on along the arrows of its
lifecycle, and that it is approved.

There are many ways to a book, and none of them is excepted.  A document is only loaded into books
that hold nothing, a new record is written under an id that nothing is stored under, and everything
else revises the record that is there.

* `Ledger.Blank.find_history_append`: what one event does to a record.
* `Ledger.continuity_history`: what is true of all records over time.
-/

namespace PublicFunds

namespace Ledger

/-- What one event of a history does to a record: it stays as it is, or another takes its place that
may do so. -/
theorem Blank.find_history_append {start : Ledger} (blank : start.Blank) {events : List Event}
    (within : ∀ front, front <+: events → (start.history front).Within (Bytes.reach 8)) (b : Book)
    {front : List Event} {e : Event} (happened : front ++ [e] <+: events) {id : RecordId}
    {x : b.Item}
    (found : b.register.find ((start.history front).store b).mended id = .ok (some x)) :
    ∃ y, b.register.find ((start.history (front ++ [e])).store b).mended id = .ok (some y) ∧
      Relation.ReflGen b.Again x y := by
  have before : front <+: events := (List.prefix_append front [e]).trans happened
  have orderly : (start.history front).Orderly :=
    blank.orderly_history fun earlier happened => within earlier (happened.trans before)
  obtain ⟨c, keeps⟩ := (orderly b).keeps
  obtain ⟨c', keeps', outlives⟩ := orderly.outlives_undergo (within front before) e keeps
  have mended : b.register.Keeps (start.history front).policy.addresses
    ((start.history front).store b).mended.entries c := keeps
  have mended' : b.register.Keeps (start.history front).policy.addresses
      ((start.history (front ++ [e])).store b).mended.entries c' := by
    rw [history_append]
    exact keeps'
  rw [mended.find (within front before b) (Store.healthy_mended _)] at found
  obtain ⟨y, stays, became⟩ := outlives.stays id x (Except.ok.inj found)
  refine ⟨y, ?_, became⟩
  rw [mended'.find (within _ happened b) (Store.healthy_mended _), stays]

/-- **Records go on and are approved, and that is all.**  Over every history of a ledger that
started unused, a budget, a procurement or a disbursement that is stored stays stored under its id.
Nothing about it changes but its status, its contract and its approvals, and where there was a
contract there is one.  Its status changes along the arrows of its lifecycle.  So no terminal status
is left, no status that was left is entered again, and no record takes more steps than the longest
path has. -/
theorem continuity_history {start : Ledger} (blank : start.Blank) {events : List Event}
    (within : ∀ front, front <+: events → (start.history front).Within (Bytes.reach 8)) :
    Budget.register.Continuity (fun front => (start.history front).budgets.mended) events ∧
      Procurement.register.Continuity (fun front => (start.history front).procurements.mended)
        events ∧
      Disbursement.register.Continuity (fun front => (start.history front).disbursements.mended)
        events := by
  refine ⟨?_, ?_, ?_⟩
  · exact Register.continuity_of_revises fun front e happened id x found =>
      blank.find_history_append within .budgets happened found
  · exact Register.continuity_of_revises fun front e happened id x found =>
      blank.find_history_append within .procurements happened found
  · exact Register.continuity_of_revises fun front e happened id x found =>
      blank.find_history_append within .disbursements happened found

/-- The budget that becomes law is seen as a draft before, and has taken one step. -/
theorem continuity_roadsLegislated :
    Budget.register.trail (fun front => ((inMemory oneOfficer).history front).budgets.mended)
        roadsLegislated 1 = [.draft, .draft, .draft, .legislated] ∧
      Budget.register.Continuity (fun front => ((inMemory oneOfficer).history front).budgets.mended)
        roadsLegislated := by
  have short : ∀ front ∈ roadsLegislated.inits,
      ((inMemory oneOfficer).history front).Within (Bytes.reach 8) := by decide +kernel
  exact ⟨by decide +kernel, (@continuity_history _ (blank_inMemory oneOfficer) roadsLegislated
    fun front happens => short front ((List.mem_inits _ _).2 happens)).1⟩

end Ledger

end PublicFunds
