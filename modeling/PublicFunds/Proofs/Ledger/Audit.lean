import Mathlib.Control.Monad.Basic
import PublicFunds.Proofs.Ledger.Coverage

/-!
# What the check of the totals finds

A ledger keeps its totals right, so in a ledger the check of the totals finds nothing.  This says
nothing about the check: one that never looked would do as well.  The check is there for stores that
something else has written to.  There a total can be missing, or wrong, or stand for a procurement
that nothing was paid out for, and the disbursements can come to more than an amount can hold.

So nothing is known of a store here except that it can be read.  What is stored is told entry by
entry, without the listings that the check goes through.  The check strikes out a sum for every
total that it has seen, and finds out which totals are missing by what is left over.  This works
because no sum of payments is zero and no procurement has two totals.

* `Register.stored`, `Tally.stored`: what some entries say.
* `Tally.entries_eq_ok`: a tally that can be read is listed as a map.
* `Disbursement.Auditable`: the stores whose totals can be checked.
* `Disbursement.finding`: what the check finds, in three cases.
* `Disbursement.verify_audits`: the answers that the check gives, and when.
-/

namespace PublicFunds

/-- The value that some bytes start with, if they start with one. -/
def Form.read? {α : Type} (form : Form α) (bs : Bytes) : Option α :=
  (form.decode bs).toOption.map Prod.fst

/-- What can be read is read. -/
theorem Register.read_eq_ok {α : Type} {form : Form α} {bs : Bytes} {a : α}
    (h : form.read? bs = some a) (kind : String) : Register.read kind form bs = .ok a := by
  unfold Form.read? at h
  unfold Register.read
  cases decoded : form.decode bs with
  | error fault =>
    rw [decoded] at h
    cases h
  | ok parts =>
    rw [decoded] at h
    cases h
    rfl

/-! ## Registers that can be read -/

namespace Register

variable {ρ : Type} [Record ρ]

/-- The records that some entries say, in the order of their keys. -/
def stored (r : Register ρ) (entries : Entries) : List ρ :=
  entries.toList.filterMap fun e =>
    if [r.records].isPrefixOf e.1 then (Record.form : Form ρ).read? e.2 else none

/-- If every record can be read, then what is read is what is stored. -/
theorem all_eq_ok {r : Register ρ} {store : Store}
    (answers : store.faults.read (.scan [r.records]) = none)
    (readable : ∀ e ∈ store.entries.toList, [r.records].isPrefixOf e.1 = true →
      ∃ x, (Record.form : Form ρ).read? e.2 = some x) :
    r.all store = .ok (r.stored store.entries) := by
  have each : ∀ l : List (Bytes × Bytes),
      (∀ e ∈ l, ∃ x, (Record.form : Form ρ).read? e.2 = some x) →
      l.map (fun e => read (Record.kind ρ) (Record.form : Form ρ) e.2) =
        (l.filterMap fun e => (Record.form : Form ρ).read? e.2).map .ok := by
    intro l hl
    induction l with
    | nil => rfl
    | cons e l ih =>
      obtain ⟨⟨x, hx⟩, rest⟩ := List.forall_mem_cons.1 hl
      simp only [List.map_cons, List.filterMap_cons, read_eq_ok hx, hx, ih rest]
  refine all_of_each ?_
  rw [Register.each, Store.scan_eq_ok answers, Entries.startingWith_eq_filter]
  refine congrArg Except.ok ((each _ fun e he => ?_).trans ?_)
  · obtain ⟨mem, region⟩ := List.mem_filter.1 he
    exact readable e mem region
  · rw [List.filterMap_filter, stored]

end Register

/-! ## Tallies that can be read -/

namespace Layout

/-- A key of nine bytes is the key of an id. -/
theorem exists_idKey {region : UInt8} {rest : Bytes} (h : rest.length = 8) :
    ∃ id, region :: rest = idKey region id := by
  have small : Bytes.ofBig rest < Bytes.reach 8 := h ▸ Bytes.ofBig_lt rest
  refine ⟨UInt64.ofNat (Bytes.ofBig rest), ?_⟩
  rw [idKey, UInt64.toNat_ofNat_of_lt' small, ← h, Bytes.big_ofBig]

end Layout

namespace Tally

variable {α : Type}

/-- The value that some entries say for an id, if they say one. -/
def stored (t : Tally α) (entries : Entries) (id : RecordId) : Option α :=
  (entries.get? (Layout.idKey t.region id)).bind t.form.read?

/-- Entries with ascending keys of ids whose values can be read are listed with these values. -/
theorem readEntries_eq_ok (t : Tally α) {es : List (Bytes × Bytes)}
    (ascending : es.Pairwise fun a b => compare a.1 b.1 = .lt)
    (keys : ∀ e ∈ es, ∃ id, e.1 = Layout.idKey t.region id)
    (values : ∀ e ∈ es, ∃ a, t.form.read? e.2 = some a) :
    ∃ m : OrderedMap RecordId α, t.readEntries es = .ok m.toList ∧
      ∀ id a, (id, a) ∈ m.toList ↔
        ∃ bs, (Layout.idKey t.region id, bs) ∈ es ∧ t.form.read? bs = some a := by
  induction es with
  | nil => exact ⟨.empty, rfl, fun id a => by simp [OrderedMap.empty]⟩
  | cons e es ih =>
    obtain ⟨key, bs⟩ := e
    obtain ⟨⟨id, hid⟩, otherKeys⟩ := List.forall_mem_cons.1 keys
    obtain ⟨⟨a, ha⟩, otherValues⟩ := List.forall_mem_cons.1 values
    obtain rfl : key = Layout.idKey t.region id := hid
    obtain ⟨first, others⟩ := List.pairwise_cons.1 ascending
    obtain ⟨m, listed, mem⟩ := ih others otherKeys otherValues
    have before : ∀ x ∈ m.toList, compare id x.1 = .lt := by
      intro x hx
      obtain ⟨bs', hbs', -⟩ := (mem x.1 x.2).1 hx
      have less := first _ hbs'
      rwa [Layout.compare_idKey] at less
    refine ⟨⟨(id, a) :: m.toList, List.pairwise_cons.2 ⟨before, m.ascending⟩⟩, ?_, fun j b => ?_⟩
    · rw [readEntries, Layout.idOfKey_idKey]
      simp only [Register.read_eq_ok ha, listed]
      rfl
    · rw [List.mem_cons, mem]
      constructor
      · rintro (here | ⟨bs', hbs', hb⟩)
        · obtain ⟨rfl, rfl⟩ := Prod.mk.inj here
          exact ⟨bs, List.mem_cons_self .., ha⟩
        · exact ⟨bs', List.mem_cons_of_mem _ hbs', hb⟩
      · rintro ⟨bs', hbs', hb⟩
        rcases List.mem_cons.1 hbs' with here | later
        · obtain ⟨same, rfl⟩ := Prod.mk.inj here
          obtain rfl := Layout.idKey_inj.1 same
          rw [ha] at hb
          cases hb
          exact .inl rfl
        · exact .inr ⟨bs', later, hb⟩

/-- **A tally that can be read is listed as a map**, which has for every id what is stored. -/
theorem entries_eq_ok {t : Tally α} {store : Store}
    (answers : store.faults.read (.scan [t.region]) = none)
    (readable : ∀ e ∈ store.entries.toList, [t.region].isPrefixOf e.1 = true →
      e.1.length = 9 ∧ ∃ a, t.form.read? e.2 = some a) :
    ∃ m : OrderedMap RecordId α, t.entries store = .ok m.toList ∧
      ∀ id, m.get? id = t.stored store.entries id := by
  have shown : ∀ e ∈ store.entries.startingWith [t.region],
      (∃ id, e.1 = Layout.idKey t.region id) ∧ ∃ a, t.form.read? e.2 = some a := by
    intro e he
    rw [Entries.startingWith_eq_filter] at he
    obtain ⟨mem, region⟩ := List.mem_filter.1 he
    obtain ⟨length, value⟩ := readable e mem region
    obtain ⟨rest, key⟩ := List.isPrefixOf_iff_prefix.1 region
    rw [← key, List.singleton_append, List.length_cons] at length
    exact ⟨key ▸ Layout.exists_idKey (Nat.succ.inj length), value⟩
  obtain ⟨m, listed, mem⟩ := t.readEntries_eq_ok (Entries.ascending_startingWith _ _)
    (fun e he => (shown e he).1) fun e he => (shown e he).2
  refine ⟨m, ?_, fun id => Option.ext fun a => ?_⟩
  · rw [entries, Store.scan_eq_ok answers]
    exact listed
  · rw [m.get?_eq_some_iff, mem, stored, Option.bind_eq_some_iff]
    refine exists_congr fun bs => and_congr_left fun _ => ?_
    rw [Entries.mem_region]
    exact and_iff_left ⟨_, rfl⟩

end Tally

/-! ## The check -/

namespace Disbursement

/-- The total that some entries say for a procurement, zero if they say none. -/
def storedTotal (entries : Entries) (p : RecordId) : Amount :=
  (totals.stored entries p).getD .zero

/-- The disbursements in a store and their totals can be read, every disbursement pays something,
and the totals stand under keys of ids.  The keys of the disbursements do not matter, since only the
disbursement itself tells what it is for. -/
structure Auditable (entries : Entries) : Prop where
  records : ∀ e ∈ entries.toList, [register.records].isPrefixOf e.1 = true →
    ∃ d ∈ form.read? e.2, d.amount ≠ .zero
  totals : ∀ e ∈ entries.toList, [totals.region].isPrefixOf e.1 = true →
    e.1.length = 9 ∧ (totals.form.read? e.2).isSome = true

/-- What the check should find for some disbursements and some totals. -/
inductive Finding (records : List Disbursement) (total : RecordId → Amount) :
    Except RecordError Unit → Prop where
  /-- Every total is the sum. -/
  | right (sums : ∀ p, (total p).toNat = paidFor p records) : Finding records total (.ok ())
  /-- There is no amount that a total could be. -/
  | overflow {p : RecordId} (out : Amount.size ≤ paidFor p records) :
    Finding records total (.error (.totalOverflow p))
  /-- A total is not the sum. -/
  | differs {p : RecordId} {held sum : Amount} (room : ∀ q, paidFor q records < Amount.size)
    (there : total p = held) (exact : sum.toNat = paidFor p records) (differ : held ≠ sum) :
    Finding records total (.error (.totalsDisagree p held sum))

/-- If the sums that no total was held against are none, then the totals are the sums. -/
theorem paid_eq_of_struck {m t rest : Totals}
    (agree : ∀ e ∈ m.toList, e.2 = (t.get? e.1).getD .zero)
    (left : ∀ p, rest.get? p = if p ∈ m.keys then none else t.get? p)
    (nothing : ∀ p, rest.get? p = none) (p : RecordId) : m.paid p = t.paid p := by
  cases found : m.get? p with
  | some a =>
    have same := agree (p, a) (m.get?_eq_some_iff.1 found)
    rw [Totals.paid, found, Totals.paid, ← same]
    rfl
  | none =>
    have struck := left p
    rw [nothing, if_neg (m.get?_eq_none_iff.1 found)] at struck
    rw [Totals.paid, found, Totals.paid, ← struck]

/-- A sum that no total was held against is for a procurement without a total. -/
theorem missing_of_struck {m t rest : Totals}
    (left : ∀ p, rest.get? p = if p ∈ m.keys then none else t.get? p) {p : RecordId} {a : Amount}
    (there : rest.get? p = some a) : m.get? p = none ∧ t.get? p = some a := by
  rw [left] at there
  split at there
  · cases there
  · next absent => exact ⟨m.get?_eq_none_iff.2 absent, there⟩

namespace Auditable

variable {store : Store}

/-- The disbursements that are stored pay something. -/
theorem positive (h : Auditable store.entries) :
    ∀ d ∈ register.stored store.entries, d.amount ≠ .zero := by
  intro d hd
  obtain ⟨e, he, read⟩ := List.mem_filterMap.1 hd
  split at read
  · next region =>
    obtain ⟨d', read', positive⟩ := h.records e he region
    rw [show (Record.form : Form Disbursement).read? e.2 = some d' from read'] at read
    cases read
    exact positive
  · cases read

/-- **What the check finds.** -/
theorem finding (h : Auditable store.entries)
    (answers : ∀ lead, store.faults.read (.scan lead) = none) :
    Finding (register.stored store.entries) (storedTotal store.entries) (verify store) := by
  have listed := Register.all_eq_ok (r := register) (answers _) fun e he region =>
    (h.records e he region).imp fun _ read => read.1
  obtain ⟨m, entries, stored⟩ := Tally.entries_eq_ok (answers _) fun e he region =>
    (h.totals e he region).imp_right Option.isSome_iff_exists.1
  have total : storedTotal store.entries = fun p => (m.get? p).getD .zero :=
    funext fun p => by rw [storedTotal, stored]
  unfold verify
  simp only [listed, entries, total]
  cases summed : sums (register.stored store.entries) with
  | error p => exact .overflow (size_le_of_sums summed)
  | ok t =>
    have exact := (sums_eq_ok_iff h.positive).1 summed
    have room : ∀ q, paidFor q (register.stored store.entries) < Amount.size :=
      fun q => exact.sum q ▸ t.paid_lt q
    rcases compareTotals_cases m.nodup_keys t with
      ⟨rest, compared, agree, left⟩ | ⟨e, he, differ, compared⟩
    · simp only [compared]
      cases remaining : rest.toList with
      | nil =>
        have nothing : ∀ p, rest.get? p = none := fun p => by
          rw [rest.get?_eq_none_iff, OrderedMap.keys, remaining]
          exact List.not_mem_nil
        exact .right fun p => (paid_eq_of_struck agree left nothing p).trans (exact.sum p)
      | cons e others =>
        have there : rest.get? e.1 = some e.2 :=
          rest.get?_eq_some_iff.2 (remaining ▸ List.mem_cons_self ..)
        obtain ⟨missing, summed⟩ := missing_of_struck left there
        have sum : e.2.toNat = paidFor e.1 (register.stored store.entries) := by
          rw [← exact.sum, Totals.paid, summed]
          rfl
        have differ : Amount.zero ≠ e.2 := (exact.noZero _ _ summed).symm
        exact .differs room (by rw [missing]; rfl) sum differ
    · simp only [compared]
      exact .differs room (by rw [m.get?_eq_some_iff.2 he]; rfl) (exact.sum e.1) differ

end Auditable

/-- **The answers that the check gives.**  In a store that can be read, the check passes exactly if
the total of every procurement is the exact sum of what was paid out for it, where a total that is
missing is zero.  It reports a sum that is too large for an amount exactly if there is one, and for
a procurement that has one.  Otherwise it names a procurement with the total and the sum that it
really has, and these are different. -/
theorem verify_audits {store : Store} (auditable : Auditable store.entries)
    (answers : ∀ lead, store.faults.read (.scan lead) = none) :
    (verify store = .ok () ↔
      ∀ p, (storedTotal store.entries p).toNat = paidFor p (register.stored store.entries)) ∧
    ((∃ p, verify store = .error (.totalOverflow p)) ↔
      ∃ p, Amount.size ≤ paidFor p (register.stored store.entries)) ∧
    (∀ p, verify store = .error (.totalOverflow p) →
      Amount.size ≤ paidFor p (register.stored store.entries)) ∧
    ∀ e, verify store = .error e → (∀ p, e ≠ .totalOverflow p) →
      ∃ p sum, e = .totalsDisagree p (storedTotal store.entries p) sum ∧
        sum.toNat = paidFor p (register.stored store.entries) ∧
        storedTotal store.entries p ≠ sum := by
  have found := auditable.finding answers
  generalize verify store = answer at found ⊢
  cases found with
  | right sums =>
    refine ⟨iff_of_true rfl sums, iff_of_false ?_ ?_, fun p h => ?_, fun e h => ?_⟩
    · rintro ⟨p, h⟩
      cases h
    · rintro ⟨p, out⟩
      rw [← sums p] at out
      exact absurd (Amount.toNat_lt _) (Nat.not_lt.2 out)
    · cases h
    · cases h
  | @overflow p out =>
    refine ⟨iff_of_false (fun h => nomatch h) fun sums => ?_, iff_of_true ⟨p, rfl⟩ ⟨p, out⟩,
      fun q h => ?_, fun e h other => ?_⟩
    · rw [← sums p] at out
      exact absurd (Amount.toNat_lt _) (Nat.not_lt.2 out)
    · cases h
      exact out
    · cases h
      exact absurd rfl (other p)
  | @differs p held sum room there exact differ =>
    refine ⟨iff_of_false (fun h => nomatch h) fun sums => ?_, iff_of_false ?_ ?_, fun q h => ?_,
      fun e h other => ?_⟩
    · rw [← there] at differ
      exact differ (Amount.ext ((sums p).trans exact.symm))
    · rintro ⟨q, h⟩
      cases h
    · rintro ⟨q, out⟩
      exact absurd (room q) (Nat.not_lt.2 out)
    · cases h
    · cases h
      subst there
      exact ⟨p, sum, rfl, exact, differ⟩

/-- A store of disbursements after something has written a total into it. -/
def overwritten (store : Store) (p : RecordId) (total : Amount) : Store :=
  { store with entries := store.entries.apply [totals.entry p total] }

/-- A store that has been written to is asked like before. -/
theorem answers_overwritten {store : Store} (healthy : store.Healthy) (p : RecordId)
    (total : Amount) (lead : Bytes) :
    (overwritten store p total).faults.read (.scan lead) = none := by
  show store.faults.read (.scan lead) = none
  rw [healthy]
  rfl

end Disbursement

namespace Ledger

/-- The store of disbursements for the roads, when something has set their total back to what it was
before the second payment. -/
def setBack : Store :=
  Disbursement.overwritten (((inMemory shortAddresses).history roadsPaid).store .disbursements) 1
    (units 7)

/-- The check finds that the total was set back, and by how much. -/
theorem verify_audits_setBack :
    Disbursement.verify setBack = .error (.totalsDisagree 1 (units 7) (units 10)) ∧
      Disbursement.storedTotal setBack.entries 1 = units 7 ∧
      Disbursement.paidFor 1 (Disbursement.register.stored setBack.entries) = 10 := by
  have auditable : Disbursement.Auditable setBack.entries :=
    ⟨by decide +kernel, by decide +kernel⟩
  have refused : Disbursement.verify setBack =
      .error (.totalsDisagree 1 (units 7) (units 10)) := by decide +kernel
  have healthy : ((inMemory shortAddresses).history roadsPaid).Healthy :=
    (healthy_inMemory _).history (by simp [roadsPaid])
  have answers : ∀ lead, setBack.faults.read (.scan lead) = none := by
    rw [setBack]
    exact Disbursement.answers_overwritten (healthy .disbursements) 1 (units 7)
  obtain ⟨-, -, -, differs⟩ := Disbursement.verify_audits auditable answers
  obtain ⟨p, sum, named, exact, -⟩ := differs _ refused fun _ same => by cases same
  obtain ⟨rfl, held, rfl⟩ := RecordError.totalsDisagree.inj named
  exact ⟨refused, held.symm, exact.symm⟩

end Ledger

end PublicFunds
