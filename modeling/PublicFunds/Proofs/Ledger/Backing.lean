import PublicFunds.Proofs.Disbursement.Keeping
import PublicFunds.Proofs.Ledger.Change

/-!
# Money is covered

A procurement names a budget, a disbursement names a procurement, and what is disbursed for a
procurement is at most its amount.  Three books are involved, and none of them looks at the
disbursements one by one: a new disbursement is held against a running total, and that is all.

It is enough because the running total is the sum, because the total of a procurement that has just
been entered is zero, and because what a record refers to and how much it is about never changes.
An id is not given out twice, so a reference cannot come to mean something else.

* `Covered`: every record has what it refers to, and nothing is overdrawn.
* `Backed`: three stores hold records that are covered.
* `Backed.changeBudgets`, `Backed.changeProcurements`, `Backed.changeDisbursements`: they still do
  after a change.
-/

namespace PublicFunds

/-! ## Covered records -/

/-- Every procurement has its budget and every disbursement its procurement, and the disbursements
for a procurement come to at most its amount. -/
structure Covered (budgets : List Budget) (procurements : List Procurement)
    (disbursements : List Disbursement) : Prop where
  budget : ∀ p ∈ procurements, ∃ b ∈ budgets, b.id = p.budget
  procurement : ∀ d ∈ disbursements, ∃ p ∈ procurements, p.id = d.procurement
  cap : ∀ p ∈ procurements, Disbursement.paidFor p.id disbursements ≤ p.amount.toNat

namespace Covered

variable {bs bs' : List Budget} {ps ps' : List Procurement} {ds ds' : List Disbursement}

theorem empty : Covered [] [] [] where
  budget _ h := absurd h List.not_mem_nil
  procurement _ h := absurd h List.not_mem_nil
  cap _ h := absurd h List.not_mem_nil

/-- It does not matter in which order the records come. -/
theorem perm (h : Covered bs ps ds) (budgets : bs'.Perm bs) (procurements : ps'.Perm ps)
    (disbursements : ds'.Perm ds) : Covered bs' ps' ds' where
  budget p hp := by
    obtain ⟨b, hb, same⟩ := h.budget p (procurements.mem_iff.1 hp)
    exact ⟨b, budgets.mem_iff.2 hb, same⟩
  procurement d hd := by
    obtain ⟨p, hp, same⟩ := h.procurement d (disbursements.mem_iff.1 hd)
    exact ⟨p, procurements.mem_iff.2 hp, same⟩
  cap p hp := by
    rw [Disbursement.paidFor_perm p.id disbursements]
    exact h.cap p (procurements.mem_iff.1 hp)

/-- Budgets may change as long as their ids stay. -/
theorem budgets (h : Covered bs ps ds) (stay : ∀ b ∈ bs, ∃ b' ∈ bs', b'.id = b.id) :
    Covered bs' ps ds where
  budget p hp := by
    obtain ⟨b, hb, same⟩ := h.budget p hp
    obtain ⟨b', hb', same'⟩ := stay b hb
    exact ⟨b', hb', same'.trans same⟩
  procurement := h.procurement
  cap := h.cap

/-- Nothing is paid for a procurement that does not exist. -/
theorem paidFor_eq_zero (h : Covered bs ps ds) {id : RecordId} (new : ∀ p ∈ ps, p.id ≠ id) :
    Disbursement.paidFor id ds = 0 := by
  refine Disbursement.paidFor_eq_zero fun d hd same => ?_
  obtain ⟨p, hp, hid⟩ := h.procurement d hd
  exact new p hp (hid.trans same)

/-- Procurements may change as long as their ids, their budgets and their amounts stay, and new ones
may be added that have a budget and a new id. -/
theorem procurements (h : Covered bs ps ds) (stay : ∀ p ∈ ps, ∃ p' ∈ ps', p'.id = p.id)
    (each : ∀ p' ∈ ps',
      (∃ p ∈ ps, p'.id = p.id ∧ p'.budget = p.budget ∧ p'.amount = p.amount) ∨
        (∃ b ∈ bs, b.id = p'.budget) ∧ ∀ p ∈ ps, p.id ≠ p'.id) :
    Covered bs ps' ds where
  budget p' hp' := by
    rcases each p' hp' with ⟨p, hp, -, same, -⟩ | ⟨known, -⟩
    · rw [same]
      exact h.budget p hp
    · exact known
  procurement d hd := by
    obtain ⟨p, hp, same⟩ := h.procurement d hd
    obtain ⟨p', hp', same'⟩ := stay p hp
    exact ⟨p', hp', same'.trans same⟩
  cap p' hp' := by
    rcases each p' hp' with ⟨p, hp, hid, -, hamount⟩ | ⟨-, new⟩
    · rw [hid, hamount]
      exact h.cap p hp
    · rw [h.paidFor_eq_zero new]
      exact Nat.zero_le _

end Covered

/-! ## Covered books -/

section Revision

variable {ρ σ : Type} [Record ρ] [Lifecycle σ] [DecidableEq σ] [Governed ρ σ]

/-- A revision leaves every record as it is or revises it, and it adds none. -/
theorem Register.Contents.Revised.mem {c c' : Contents ρ} (h : c.Revised c') (own : c.Own) :
    (∀ x ∈ c.records.values, ∃ x' ∈ c'.records.values, x' = x ∨ Governed.Revises x x') ∧
      ∀ x' ∈ c'.records.values, ∃ x ∈ c.records.values, x' = x ∨ Governed.Revises x x' := by
  rcases h with rfl | ⟨y, y', found, revises, rfl⟩
  · exact ⟨fun x hx => ⟨x, hx, .inl rfl⟩, fun x hx => ⟨x, hx, .inl rfl⟩⟩
  · rw [revises.id_eq] at found
    have here : y ∈ c.records.values := own.mem_values.2 found
    constructor
    · intro x hx
      by_cases hid : Record.id x = Record.id y'
      · -- there is one record under an id
        have same := own.mem_values.1 hx
        rw [hid, revises.id_eq, found] at same
        cases same
        exact ⟨y', own.mem_values_put.2 (.inl rfl), .inr revises⟩
      · exact ⟨x, own.mem_values_put.2 (.inr ⟨hx, hid⟩), .inl rfl⟩
    · intro x' hx'
      rcases own.mem_values_put.1 hx' with rfl | ⟨hx', -⟩
      · exact ⟨y, here, .inr revises⟩
      · exact ⟨x', hx', .inl rfl⟩

end Revision

/-- A procurement that goes on or is approved keeps its budget and its amount. -/
theorem Procurement.revises_eq {p q : Procurement} (h : Governed.Revises p q) :
    q.budget = p.budget ∧ q.amount = p.amount := by
  cases h with
  | status s follows => exact ⟨rfl, rfl⟩
  | endorsement e contract => exact ⟨rfl, rfl⟩

open Register

/-- Three stores hold budgets, procurements and disbursements that are covered. -/
def Backed (format : AddressFormat) (budgets procurements disbursements : Entries) : Prop :=
  ∃ bs ps ds t, Budget.register.Keeps format budgets bs ∧
    Procurement.register.Keeps format procurements ps ∧
    Disbursement.Keeps format disbursements ds t ∧
    Covered bs.records.values ps.records.values ds.records.values

namespace Backed

variable {format : AddressFormat} {sources : Sources} {store : Store} {batch : Batch}
  {budgets procurements disbursements : Entries}

theorem empty (format : AddressFormat) : Backed format .empty .empty .empty :=
  ⟨_, _, _, _, Budget.register.keeps_empty format, Procurement.register.keeps_empty format,
    Disbursement.keeps_empty format, Covered.empty⟩

/-- A record that is put under a new id leaves the others where they are. -/
theorem mem_put_of_mem {ρ : Type} [Record ρ] {c : Contents ρ} (own : c.Own) {y : ρ}
    (free : c.records.get? (Record.id y) = none) (n : RecordId) :
    ∀ x ∈ c.records.values, Record.id x ≠ Record.id y ∧
      x ∈ (Contents.put { c with last := n } y).records.values := by
  intro x hx
  have hne : Record.id x ≠ Record.id y := by
    intro same
    rw [own.mem_values, same, free] at hx
    cases hx
  exact ⟨hne, Contents.Own.mem_values_put (c := { c with last := n }) own |>.2 (.inr ⟨hx, hne⟩)⟩

/-- What is done to budgets leaves everything covered. -/
theorem changeBudgets (h : Backed format store.entries procurements disbursements)
    (within : store.entries.Within (Bytes.reach 8))
    (changes : Book.budgets.Changes format sources store batch) :
    Backed format (store.entries.apply batch) procurements disbursements := by
  obtain ⟨bs, ps, ds, t, hbs, hps, hds, covered⟩ := h
  rcases changes with ⟨b, id, planned⟩ | revises
  · obtain ⟨y, -, checked, added⟩ := Budget.enter_eq_ok planned
    obtain ⟨up, rfl, rfl, keeps⟩ := hbs.add (by decide) rfl checked added
    refine ⟨_, ps, ds, t, keeps, hps, hds, covered.budgets fun b hb => ⟨b, ?_, rfl⟩⟩
    exact (mem_put_of_mem hbs.valid.own (hbs.get?_eq_none up) _ b hb).2
  · obtain ⟨-, c, keeps, revised⟩ := hbs.revise within revises 1
    refine ⟨c, ps, ds, t, keeps, hps, hds, covered.budgets fun b hb => ?_⟩
    obtain ⟨b', hb', rfl | changed⟩ := (revised.mem hbs.valid.own).1 b hb
    · exact ⟨b', hb', rfl⟩
    · exact ⟨b', hb', changed.id_eq⟩

/-- What is done to procurements leaves everything covered, if budgets are looked up where they
are. -/
theorem changeProcurements {known : Store}
    (h : Backed format known.entries store.entries disbursements)
    (within : store.entries.Within (Bytes.reach 8)) (within' : known.entries.Within (Bytes.reach 8))
    (source : sources.budgets = Budget.source known)
    (changes : Book.procurements.Changes format sources store batch) :
    Backed format known.entries (store.entries.apply batch) disbursements := by
  obtain ⟨bs, ps, ds, t, hbs, hps, hds, covered⟩ := h
  rcases changes with ⟨p, id, planned⟩ | revises
  · obtain ⟨b, y, -, checked, found, added⟩ := Procurement.enter_eq_ok planned
    obtain ⟨up, hy, rfl, keeps⟩ := hps.add (by decide) rfl checked added
    have hid : Record.id y = ps.last + 1 := by rw [hy, Record.id_withId]
    have free := hps.get?_eq_none up
    rw [← hid] at free
    have others := mem_put_of_mem hps.valid.own free (ps.last + 1)
    refine ⟨bs, _, ds, t, hbs, keeps, hds, covered.procurements ?_ ?_⟩
    · exact fun p hp => ⟨p, (others p hp).2, rfl⟩
    · intro p' hp'
      rcases (Contents.Own.mem_values_put (c := { ps with last := ps.last + 1 })
        hps.valid.own).1 hp' with rfl | ⟨hp', -⟩
      · have named : p'.budget = p.budget := by rw [hy]; rfl
        rw [source] at found
        rw [named]
        exact .inr ⟨⟨b, hbs.valid.own.mem_of_get? (hbs.find_eq_ok within' found).symm⟩,
          fun p hp => (others p hp).1⟩
      · exact .inl ⟨p', hp', rfl, rfl, rfl⟩
  · obtain ⟨-, c, keeps, revised⟩ := hps.revise within revises 1
    obtain ⟨stay, each⟩ := revised.mem hps.valid.own
    refine ⟨bs, c, ds, t, hbs, keeps, hds, covered.procurements (fun p hp => ?_) fun p' hp' => ?_⟩
    · obtain ⟨p', hp', rfl | changed⟩ := stay p hp
      · exact ⟨p', hp', rfl⟩
      · exact ⟨p', hp', changed.id_eq⟩
    · obtain ⟨p, hp, rfl | changed⟩ := each p' hp'
      · exact .inl ⟨p', hp, rfl, rfl, rfl⟩
      · exact .inl ⟨p, hp, changed.id_eq, Procurement.revises_eq changed⟩

/-- What is done to disbursements leaves everything covered, if procurements are looked up where
they are. -/
theorem changeDisbursements {known : Store} (h : Backed format budgets known.entries store.entries)
    (within : store.entries.Within (Bytes.reach 8)) (within' : known.entries.Within (Bytes.reach 8))
    (source : sources.procurements = Procurement.source known)
    (changes : Book.disbursements.Changes format sources store batch) :
    Backed format budgets known.entries (store.entries.apply batch) := by
  obtain ⟨bs, ps, ds, t, hbs, hps, hds, covered⟩ := h
  have paid := hds.sums.sum
  rcases changes with ⟨d, id, planned⟩ | revises
  · obtain ⟨-, p, total, y, -, found, hid, up, le, keeps⟩ := hds.enter within planned
    rw [source] at found
    obtain ⟨hp, named⟩ := hps.valid.own.mem_of_get? (hps.find_eq_ok within' found).symm
    refine ⟨bs, ps, _, _, hbs, hps, keeps, covered.budget, ?_, fun q hq => ?_⟩
    · intro d' hd'
      rcases (Contents.Own.mem_values_put (c := { ds with last := ds.last + 1 })
        hds.register.valid.own).1 hd' with rfl | ⟨hd', -⟩
      · exact ⟨p, hp, named⟩
      · exact covered.procurement d' hd'
    · rw [← keeps.sums.sum, Totals.paid_insert]
      by_cases same : y.procurement = q.id
      · -- the procurement that was looked up is the one under the id
        have there := hps.valid.own.mem_values.1 hq
        rw [show Record.id q = Record.id p from same.symm.trans named.symm,
          hps.valid.own.mem_values.1 hp] at there
        cases there
        rwa [if_pos same]
      · rw [if_neg same, paid]
        exact covered.cap q hq
  · obtain ⟨-, c, keeps, revised⟩ := hds.revise within revises
    refine ⟨bs, ps, c, t, hbs, hps, keeps, covered.budget, fun d' hd' => ?_, fun q hq => ?_⟩
    · obtain ⟨d, hd, rfl | changed⟩ := (revised.mem hds.register.valid.own).2 d' hd'
      · exact covered.procurement d' hd
      · rw [(Disbursement.revises_eq changed).1]
        exact covered.procurement d hd
    · rw [← keeps.sums.sum, paid]
      exact covered.cap q hq

end Backed

end PublicFunds
