import Mathlib.Data.List.Infix
import PublicFunds.Proofs.Ledger.Coverage
import PublicFunds.Proofs.Ledger.Orderly

/-!
# Running totals are exact

A running total is written once with every new disbursement, and never when a disbursement goes on
or is approved.  A document brings totals of its own, which may include zeros; what is written then
are the sums of its records.  After all this the stored totals are what anybody would find who adds
up the disbursements from the beginning without a bound on sums.

* `Disbursement.Exact`: what it means for stored totals to be exact.
* `Ledger.exact_history`: the totals are exact after every history.
-/

namespace PublicFunds

namespace Disbursement

/-- The stored totals are exact.  There is one for each procurement that some stored disbursement is
for and for no other, and each is the sum of the disbursements for its procurement. -/
structure Exact (store : Store) (stored : List Disbursement) (sums : List (RecordId × Amount)) :
    Prop where
  records : register.all store = .ok stored
  entries : totals.entries store = .ok sums
  once : (sums.map Prod.fst).Nodup
  named : ∀ p, p ∈ sums.map Prod.fst ↔ ∃ d ∈ stored, d.procurement = p
  exact : ∀ e ∈ sums, e.2.toNat = paidFor e.1 stored
  bounded : ∀ p, paidFor p stored < Amount.size
  /-- Asking for the total of a procurement gives the sum. -/
  total : ∀ p, (Disbursement.total store p).map Amount.toNat = .ok (paidFor p stored)
  /-- Nothing was disbursed for any other procurement. -/
  other : ∀ p, (∀ d ∈ stored, d.procurement ≠ p) → Disbursement.total store p = .ok .zero
  /-- Checking the totals finds nothing wrong. -/
  verified : verify store = .ok ()

/-- A store of disbursements with their totals has exact totals. -/
theorem Keeps.exact {format : AddressFormat} {store : Store}
    {c : Register.Contents Disbursement} {t : Totals} (h : Keeps format store.entries c t)
    (within : store.entries.Within (Bytes.reach 8)) (healthy : store.Healthy) :
    Exact store c.records.values t.toList where
  records := Register.Keeps.all h.register within healthy
  entries := Tally.entries_eq h.totals faithful_totals within healthy
  once := t.nodup_keys
  named _ := h.sums.mem_keys_iff h.positive
  exact e he := by
    rw [← h.sums.sum, Totals.paid, t.get?_eq_some_iff.2 he]
    rfl
  bounded p := by
    rw [← h.sums.sum]
    exact t.paid_lt p
  total p := by
    rw [h.total_eq within healthy, ← h.sums.sum]
    rfl
  other p unpaid := by
    have absent : t.get? p = none := by
      rw [t.get?_eq_none_iff, h.sums.mem_keys_iff h.positive]
      rintro ⟨d, hd, same⟩
      exact unpaid d hd same
    rw [h.total_eq within healthy, absent]
    rfl
  verified := h.verify within healthy

end Disbursement

namespace Ledger

/-- **Running totals are exact** after every history of a ledger that started unused, as soon as
nothing goes wrong in the store of disbursements any more. -/
theorem exact_history {start : Ledger} (blank : start.Blank) {events : List Event}
    (within : ∀ front, front <+: events → (start.history front).Within (Bytes.reach 8)) :
    ∃ stored sums,
      Disbursement.Exact (start.history events).disbursements.mended stored sums := by
  obtain ⟨c, t, keeps, -⟩ := blank.orderly_history within .disbursements
  have mended : Disbursement.Keeps (start.history events).policy.addresses
    (start.history events).disbursements.mended.entries c t := keeps
  exact ⟨_, _, mended.exact (within events List.prefix_rfl .disbursements)
    (Store.healthy_mended _)⟩

/-- Two disbursements have been entered for one procurement and a third was refused, and the total
is the sum of the two. -/
theorem exact_roadsPaid :
    ∃ stored, Disbursement.Exact
      ((inMemory shortAddresses).history roadsPaid).disbursements.mended stored
      [(1, units 10)] := by
  have short : ∀ front ∈ roadsPaid.inits,
      ((inMemory shortAddresses).history front).Within (Bytes.reach 8) := by decide +kernel
  have sums : Disbursement.totals.entries
      ((inMemory shortAddresses).history roadsPaid).disbursements.mended =
        .ok [(1, units 10)] := by decide +kernel
  obtain ⟨stored, _, exact⟩ := @exact_history _ (blank_inMemory shortAddresses) roadsPaid
    fun front happens => short front ((List.mem_inits _ _).2 happens)
  cases exact.entries.symm.trans sums
  exact ⟨stored, exact⟩

end Ledger

end PublicFunds
