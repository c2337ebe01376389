import Mathlib.Data.List.Infix
import PublicFunds.Proofs.Ledger.Career
import PublicFunds.Proofs.Ledger.Coverage
import PublicFunds.Proofs.Ledger.Reproduction
import PublicFunds.Proofs.Ledger.Verdict

/-!
# What fits under the amount of a procurement

A disbursement has to be in order, its procurement has to be there, everything that is disbursed for
the procurement may come to its amount and no more, and there has to be an id left.  Nothing else
can keep a disbursement out.  That the sum is too much is not always seen in the sum, since it need
not be an amount itself; then it is refused just like one that is a unit too much.

What is handed in as the id, the status and the approvals counts for nothing.  It is neither looked
at nor kept.

The other books are as good as constants here, so the verdicts are read off the plan of the
operation.  That the store of disbursements holds disbursements with their totals is only needed to
know that the questions in the plan are answered, and that the next id is free.

* `Disbursement.scheduledAs`: a disbursement as it is stored when it is entered.
* `Ledger.Enters`: everything that a disbursement that is entered changes.
* `Ledger.Admits`: the verdicts on a disbursement, in the order in which they are reached.
* `Ledger.admits_career`: these are the verdicts whatever happened before.
-/

namespace PublicFunds

open Register

/-! ## Plans -/

namespace Register

variable {ρ : Type} [Record ρ] {r : Register ρ} {store : Store} {x : ρ} {n : RecordId}

/-- A record without an id is given the next one, if there is one. -/
theorem add_of_room (new : Record.id x = 0) (last : r.last store = .ok n)
    (room : n.toNat + 1 < UInt64.size) :
    r.add store x = .ok (Record.withId x (n + 1),
      r.setLast (n + 1) ++ [r.entry (Record.withId x (n + 1))]) := by
  unfold add next
  simp only [if_pos new, last, if_pos room]

/-- A record without an id is refused if all ids have been given out. -/
theorem add_of_exhausted (new : Record.id x = 0) (last : r.last store = .ok n)
    (full : n.toNat + 1 = UInt64.size) :
    r.add store x = .error (.exhausted (Record.kind ρ)) := by
  unfold add next
  simp only [if_pos new, last, full, Nat.lt_irrefl, if_false]

end Register

namespace Disbursement

/-- A disbursement as it is stored when it is entered under an id: it is scheduled and nobody has
approved it.  Its contract stays. -/
def scheduledAs (d : Disbursement) (id : RecordId) : Disbursement :=
  { d with id, status := .scheduled, endorsement := ⟨d.endorsement.contract, []⟩ }

theorem fresh_eq (d : Disbursement) : Governed.fresh d = d.scheduledAs 0 := rfl

@[simp] theorem procurement_scheduledAs (d : Disbursement) (id : RecordId) :
    (d.scheduledAs id).procurement = d.procurement := rfl

@[simp] theorem amount_scheduledAs (d : Disbursement) (id : RecordId) :
    (d.scheduledAs id).amount = d.amount := rfl

/-- A disbursement is given the next id. -/
theorem add_scheduledAs (d : Disbursement) {store : Store} {n : RecordId}
    (last : register.last store = .ok n) (room : n.toNat + 1 < UInt64.size) :
    register.add store (d.scheduledAs 0) = .ok (d.scheduledAs (n + 1),
      register.setLast (n + 1) ++ [register.entry (d.scheduledAs (n + 1))]) :=
  add_of_room rfl last room

section Entering

variable {format : AddressFormat} {store : Store} {procurements : ProcurementSource}
  {d : Disbursement}

/-- A disbursement that does not pass its checks is refused. -/
theorem enter_of_invalid {e : RecordError}
    (failed : checkFields format (d.scheduledAs 0) = .error e) :
    enter format store procurements d = .error e := by
  unfold enter
  simp only [fresh_eq, failed]

variable (checked : checkFields format (d.scheduledAs 0) = .ok ())

include checked

/-- A disbursement for a procurement that is not there is refused. -/
theorem enter_of_missing (missing : procurements d.procurement = .ok none) :
    enter format store procurements d = .error (.procurementMissing d.procurement) := by
  unfold enter
  simp only [fresh_eq, checked, procurement_scheduledAs, missing]

variable {p : Procurement} (found : procurements d.procurement = .ok (some p))

include found

/-- Any other disbursement is held against its procurement. -/
theorem enter_of_found :
    enter format store procurements d = enterFor store p (d.scheduledAs 0) := by
  unfold enter
  simp only [fresh_eq, checked, procurement_scheduledAs, found]

variable {disbursed : Amount} (paid : total store d.procurement = .ok disbursed) {n : RecordId}

include paid

/-- A disbursement with which the sum would be more than the amount is refused. -/
theorem enter_of_exceeded (exceeds : p.amount.toNat < disbursed.toNat + d.amount.toNat) :
    enter format store procurements d =
      .error (.amountExceeded d.procurement d.amount disbursed p.amount) := by
  rw [enter_of_found checked found, enterFor]
  simp only [procurement_scheduledAs, amount_scheduledAs, paid, totalWithin?_eq_none_iff.2 exceeds]

/-- A disbursement for which no id is left is refused. -/
theorem enter_of_exhausted (fits : disbursed.toNat + d.amount.toNat ≤ p.amount.toNat)
    (last : register.last store = .ok n) (full : n.toNat + 1 = UInt64.size) :
    enter format store procurements d =
      .error (.register (.exhausted (Record.kind Disbursement))) := by
  have sum : disbursed.toNat + d.amount.toNat < Amount.size :=
    Nat.lt_of_le_of_lt fits p.amount.toNat_lt
  have within : totalWithin? disbursed d.amount p.amount = some ⟨_, sum⟩ :=
    totalWithin?_eq_some_iff.2 ⟨rfl, fits⟩
  have refused : register.add store (d.scheduledAs 0) = _ := add_of_exhausted rfl last full
  rw [enter_of_found checked found, enterFor]
  simp only [procurement_scheduledAs, amount_scheduledAs, paid, within, refused]

/-- A disbursement for which there is an id left is entered. -/
theorem enter_of_room {total : Amount} (sum : disbursed.toNat + d.amount.toNat = total.toNat)
    (fits : total.toNat ≤ p.amount.toNat) (last : register.last store = .ok n)
    (room : n.toNat + 1 < UInt64.size) :
    enter format store procurements d = .ok (n + 1,
      register.setLast (n + 1) ++ [register.entry (d.scheduledAs (n + 1))] ++
        [totals.entry d.procurement total]) := by
  have within : totalWithin? disbursed d.amount p.amount = some total :=
    totalWithin?_eq_some_iff.2 ⟨sum, fits⟩
  rw [enter_of_found checked found, enterFor]
  simp only [procurement_scheduledAs, amount_scheduledAs, paid, within, add_scheduledAs d last room]
  rfl

end Entering

end Disbursement

namespace Ledger

/-! ## What is entered -/

/-- **Everything that a disbursement changes** when it is entered under an id and has a total. -/
structure Enters (before after : Ledger) (d : Disbursement) (id : RecordId) (total : Amount) :
    Prop where
  policy : after.policy = before.policy
  others : ∀ b, b ≠ .disbursements → after.store b = before.store b
  /-- The id, the disbursement and its total are written together, and nothing else is. -/
  written : after.disbursements.entries = before.disbursements.entries.apply
    (Disbursement.register.setLast id ++ [Disbursement.register.entry (d.scheduledAs id)] ++
      [Disbursement.totals.entry d.procurement total])
  /-- No disbursement had the id, and now it is the last. -/
  free : Disbursement.register.find before.disbursements id = .ok none
  last : Disbursement.register.last after.disbursements = .ok id
  /-- Every other disbursement and every other total is found as it was. -/
  records : ∀ j, j ≠ id →
    Disbursement.register.find after.disbursements j =
      Disbursement.register.find before.disbursements j
  totals : ∀ p, p ≠ d.procurement →
    Disbursement.total after.disbursements p = Disbursement.total before.disbursements p
  /-- The disbursement and its total are found, if they are not too long to be read back. -/
  found : after.Within (Bytes.reach 8) →
    Disbursement.register.find after.disbursements id = .ok (some (d.scheduledAs id)) ∧
      Disbursement.total after.disbursements d.procurement = .ok total

/-- **The verdicts on a disbursement**, in the order in which they are reached.  `found` is what is
stored for its procurement, `disbursed` is what was disbursed for it before, and `last` is the last
id that was given out. -/
structure Admits (ledger : Ledger) (sources : Sources) (d : Disbursement)
    (found : Option Procurement) (disbursed : Amount) (last : RecordId) : Prop where
  /-- It does not pass its checks. -/
  invalid : ∀ e, Disbursement.checkFields ledger.policy.addresses (d.scheduledAs 0) = .error e →
    ledger.Refuses sources (.enterDisbursement d) e
  /-- Its procurement is not there. -/
  missing : Disbursement.checkFields ledger.policy.addresses (d.scheduledAs 0) = .ok () →
    found = none → ledger.Refuses sources (.enterDisbursement d) (.procurementMissing d.procurement)
  /-- The exact sum is more than the amount of its procurement.  It may be more than any amount. -/
  exceeded : Disbursement.checkFields ledger.policy.addresses (d.scheduledAs 0) = .ok () →
    ∀ p, found = some p → p.amount.toNat < disbursed.toNat + d.amount.toNat →
      ledger.Refuses sources (.enterDisbursement d)
        (.amountExceeded d.procurement d.amount disbursed p.amount)
  /-- All ids have been given out. -/
  exhausted : Disbursement.checkFields ledger.policy.addresses (d.scheduledAs 0) = .ok () →
    ∀ p, found = some p → disbursed.toNat + d.amount.toNat ≤ p.amount.toNat →
      last.toNat + 1 = UInt64.size →
      ledger.Refuses sources (.enterDisbursement d)
        (.register (.exhausted (Record.kind Disbursement)))
  /-- It is entered under the next id, and the total is the exact sum. -/
  entered : Disbursement.checkFields ledger.policy.addresses (d.scheduledAs 0) = .ok () →
    ∀ p, found = some p → disbursed.toNat + d.amount.toNat ≤ p.amount.toNat →
      last.toNat + 1 < UInt64.size →
      ∃ id total, id.toNat = last.toNat + 1 ∧ total.toNat = disbursed.toNat + d.amount.toNat ∧
        (ledger.performWith sources (.enterDisbursement d)).1 = .ok (.entered id) ∧
        ledger.Enters (ledger.performWith sources (.enterDisbursement d)).2 d id total

section Verdicts

variable {ledger : Ledger} {sources : Sources} {d : Disbursement}

/-- **A disbursement is entered exactly if it fits**: the verdicts leave nothing open. -/
theorem Admits.succeeds_iff {found : Option Procurement} {disbursed : Amount} {last : RecordId}
    (h : ledger.Admits sources d found disbursed last) :
    ledger.Succeeds sources (.enterDisbursement d) ↔
      Disbursement.checkFields ledger.policy.addresses (d.scheduledAs 0) = .ok () ∧
      ∃ p, found = some p ∧ disbursed.toNat + d.amount.toNat ≤ p.amount.toNat ∧
        last.toNat + 1 < UInt64.size := by
  constructor
  · intro succeeds
    cases checked : Disbursement.checkFields ledger.policy.addresses (d.scheduledAs 0) with
    | error e => exact absurd succeeds (h.invalid e checked).not_succeeds
    | ok u =>
      cases there : found with
      | none => exact absurd succeeds (h.missing checked there).not_succeeds
      | some p =>
        have fits : disbursed.toNat + d.amount.toNat ≤ p.amount.toNat :=
          Nat.le_of_not_lt fun exceeds => (h.exceeded checked p there exceeds).not_succeeds succeeds
        have unused : last.toNat + 1 ≠ UInt64.size :=
          fun full => (h.exhausted checked p there fits full).not_succeeds succeeds
        exact ⟨rfl, p, rfl, fits, Nat.lt_of_le_of_ne last.toNat_lt unused⟩
  · rintro ⟨checked, p, there, fits, room⟩
    obtain ⟨id, total, -, -, answered, -⟩ := h.entered checked p there fits room
    exact ⟨_, answered⟩

variable {c : Contents Disbursement} {t : Totals}
  (keeps : Disbursement.Keeps ledger.policy.addresses ledger.disbursements.entries c t)
  (within : ledger.disbursements.entries.Within (Bytes.reach 8))
  (healthy : ledger.disbursements.Healthy)

include keeps within healthy

/-- What a store of disbursements with their totals is like after a disbursement was entered. -/
theorem enters_of_keeps {after : Ledger} {total : Amount}
    (checked : Disbursement.checkFields ledger.policy.addresses (d.scheduledAs 0) = .ok ())
    (sum : t.paid d.procurement + d.amount.toNat = total.toNat)
    (room : c.last.toNat + 1 < UInt64.size) (policy : after.policy = ledger.policy)
    (others : ∀ b, b ≠ .disbursements → after.store b = ledger.store b)
    (written : after.disbursements.entries = ledger.disbursements.entries.apply
      (Disbursement.register.setLast (c.last + 1) ++
        [Disbursement.register.entry (d.scheduledAs (c.last + 1))] ++
          [Disbursement.totals.entry d.procurement total]))
    (healthy' : after.disbursements.Healthy) :
    ledger.Enters after d (c.last + 1) total := by
  have last := Register.Keeps.last keeps.register healthy
  obtain ⟨up, -, -, keeps'⟩ :=
    keeps.entered checked (Disbursement.add_scheduledAs d last room) sum
  rw [← written] at keeps'
  have elsewhere : ∀ key, key ≠ [Disbursement.register.counter] →
      key ≠ Layout.idKey Disbursement.register.records (c.last + 1) →
      key ≠ Layout.idKey Disbursement.totals.region d.procurement →
      after.disbursements.find key = ledger.disbursements.find key := by
    intro key counter record total
    rw [healthy'.find, healthy.find, written]
    refine congrArg Except.ok (Entries.get?_apply_of_notMem _ ?_)
    exact List.forall_mem_cons.2
      ⟨counter, List.forall_mem_cons.2 ⟨record, List.forall_mem_singleton.2 total⟩⟩
  exact {
    policy := policy
    others := others
    written := written
    free := by
      rw [Register.Keeps.find keeps.register within healthy, keeps.register.get?_eq_none up]
    last := Register.Keeps.last keeps'.register healthy'
    records := by
      intro j other
      rw [Register.find, Register.find, elsewhere _ (Layout.idKey_ne_counter _ _ _)
        (fun same => other (Layout.idKey_inj.1 same))
        fun same => absurd (List.cons.inj same).1 (by decide)]
    totals := by
      intro p other
      rw [Disbursement.total, Disbursement.total, Tally.find, Tally.find, elsewhere _
        (Layout.idKey_ne_counter _ _ _) (fun same => absurd (List.cons.inj same).1 (by decide))
        fun same => other (Layout.idKey_inj.1 same)]
    found := by
      intro within'
      rw [Register.Keeps.find keeps'.register (within' .disbursements) healthy',
        keeps'.total_eq (within' .disbursements) healthy', OrderedMap.get?_insert_self]
      exact ⟨congrArg Except.ok (OrderedMap.get?_insert_self ..), rfl⟩ }

/-- The verdicts on a disbursement in a store of disbursements with their totals. -/
theorem admits_of_keeps {found : Option Procurement}
    (source : sources.procurements d.procurement = .ok found) :
    ledger.Admits sources d found ((t.get? d.procurement).getD .zero) c.last := by
  have paid := keeps.total_eq within healthy d.procurement
  have last := Register.Keeps.last keeps.register healthy
  let op : Operation := .enterDisbursement d
  have planned : op.plan ledger.policy sources (ledger.store op.book) = Operation.answering
      (Disbursement.enter ledger.policy.addresses ledger.disbursements sources.procurements d)
      .entered := rfl
  have known : (ledger.store op.book).Healthy := healthy
  exact {
    invalid := fun e failed => refuses_of_plan planned (Disbursement.enter_of_invalid failed)
    missing := by
      rintro checked rfl
      exact refuses_of_plan planned (Disbursement.enter_of_missing checked source)
    exceeded := by
      rintro checked p rfl exceeds
      exact refuses_of_plan planned (Disbursement.enter_of_exceeded checked source paid exceeds)
    exhausted := by
      rintro checked p rfl fits full
      exact refuses_of_plan planned
        (Disbursement.enter_of_exhausted checked source paid fits last full)
    entered := by
      rintro checked p rfl fits room
      have small := Nat.lt_of_le_of_lt fits p.amount.toNat_lt
      let total : Amount := ⟨_, small⟩
      have next : (c.last + 1).toNat = c.last.toNat + 1 := by
        rw [UInt64.toNat_add]
        exact Nat.mod_eq_of_lt room
      have enters := Disbursement.enter_of_room checked source paid (@rfl _ total.toNat) fits last
        room
      obtain ⟨answered, written, healthy'⟩ := carriedOut_of_plan planned known enters
      refine ⟨c.last + 1, total, next, rfl, answered, ?_⟩
      exact enters_of_keeps keeps within healthy checked rfl room (policy_performWith ..)
        (fun b other => ledger.store_performWith_of_ne sources other) written healthy' }

end Verdicts

/-! ## Whatever happened before -/

/-- **A disbursement is admitted exactly if it fits.**  This holds in every ledger that started
unused, whatever happened to it, and even if it was closed and opened again in between.  The stores
of disbursements and procurements have to be in good health.  Then the verdict depends on the fields
of the disbursement, on what is stored for its procurement, on what was disbursed for it and on the
last id, and on nothing else.  The hypotheses about lengths say that nothing was ever too long for
the eight bytes that tell a length in a store, or for the four that do in a file. -/
theorem admits_career {start : Ledger} (blank : start.Blank) (saved : start.Saved)
    {episodes : List Episode}
    (within : ∀ front, front <+: episodes → (start.career front).Within (Bytes.reach 8))
    (short : ∀ front, front ++ [.reopening] <+: episodes →
      (start.career front).Within (Bytes.reach 4)) (d : Disbursement) :
    let ledger := start.career episodes
    ledger.disbursements.Healthy → ledger.procurements.Healthy → ∃ found disbursed last,
      Procurement.register.find ledger.procurements d.procurement = .ok found ∧
      Disbursement.total ledger.disbursements d.procurement = .ok disbursed ∧
      Disbursement.register.last ledger.disbursements = .ok last ∧
      ledger.Admits ledger.sources d found disbursed last ∧
      (ledger.Succeeds ledger.sources (.enterDisbursement d) ↔
        Disbursement.checkFields ledger.policy.addresses (d.scheduledAs 0) = .ok () ∧
        ∃ p, found = some p ∧ disbursed.toNat + d.amount.toNat ≤ p.amount.toNat ∧
          last.toNat + 1 < UInt64.size) := by
  intro ledger healthy known
  have orderly := (blank.orderly_episodes saved within short).1
  have fits := within episodes List.prefix_rfl
  obtain ⟨c, t, keeps, -⟩ := orderly .disbursements
  obtain ⟨plans, kept⟩ := (orderly .procurements).keeps
  have source := Register.Keeps.find kept (fits .procurements) known d.procurement
  have verdicts : ledger.Admits ledger.sources d _ _ _ :=
    admits_of_keeps keeps (fits .disbursements) healthy source
  exact ⟨_, _, _, source, keeps.total_eq (fits .disbursements) healthy d.procurement,
    Register.Keeps.last keeps.register healthy, verdicts, verdicts.succeeds_iff⟩

/-- What leads to the first payment for the roads, after which the ledger is opened again. -/
def roadsReopened : List Episode := (roadsPaid.take 3).map .event ++ [.reopening]

/-- The ledger of the roads after the first payment: seven of ten units have been disbursed. -/
def partlyPaid : Ledger := (onNoFiles shortAddresses).career roadsReopened

/-- A payment for the roads that comes with an id, a status and an approval. -/
def handedIn (amount : Amount) : Disbursement :=
  { Disbursement.scheduled 1 amount "EUR" "xbb" with
    id := 9, status := .resolved, endorsement := ⟨"", [⟨"xbb", "treasurer", 4, ""⟩]⟩ }

/-- The procurement of the roads. -/
def roads : Procurement :=
  { Procurement.planned 1 "A1" "works" "roads" (units 10) "EUR" "xaa" with id := 1 }

/-- What the ledger of the roads holds, and that nothing in it was ever too long for its file. -/
theorem stored_partlyPaid :
    Procurement.register.find partlyPaid.procurements 1 = .ok (some roads) ∧
      Disbursement.total partlyPaid.disbursements 1 = .ok (units 7) ∧
      Disbursement.register.last partlyPaid.disbursements = .ok 1 ∧
      partlyPaid.policy = shortAddresses ∧
      ∀ front ∈ roadsReopened.inits,
        ((onNoFiles shortAddresses).career front).Within (Bytes.reach 4) := by
  decide +kernel

/-- Three units more are entered and reach the amount.  Four are too much, and so is the largest
amount, with which the sum is none. -/
theorem admits_partlyPaid :
    (∃ after, partlyPaid.performWith partlyPaid.sources (.enterDisbursement (handedIn (units 3))) =
        (.ok (.entered 2), after) ∧ partlyPaid.Enters after (handedIn (units 3)) 2 (units 10)) ∧
      ∀ amount ∈ [units 4, units (Amount.size - 1)],
        partlyPaid.Refuses partlyPaid.sources (.enterDisbursement (handedIn amount))
          (.amountExceeded 1 amount (units 7) (units 10)) := by
  obtain ⟨stored, paid, last, policy, short⟩ := stored_partlyPaid
  have fits : ∀ front, front <+: roadsReopened →
      ((onNoFiles shortAddresses).career front).Within (Bytes.reach 4) :=
    fun front happens => short front ((List.mem_inits _ _).2 happens)
  have blank : (onNoFiles shortAddresses).Blank := fun b => by cases b <;> rfl
  have saved : (onNoFiles shortAddresses).Saved := fun b => by
    cases b <;> exact Store.Saved.onNoFile _
  -- the stores are in good health since the ledger has just been opened
  have healthy : partlyPaid.Healthy := by
    have before : (roadsPaid.take 3).map .event <+: roadsReopened := List.prefix_append _ _
    have upToDate := (blank.orderly_career saved fun front happens =>
      fits front (happens.trans before)).2
    rw [partlyPaid, roadsReopened, career_concat]
    exact upToDate.healthy_reopening (fits _ before)
  have verdicts : ∀ amount, partlyPaid.Admits partlyPaid.sources (handedIn amount) (some roads)
      (units 7) 1 := by
    intro amount
    obtain ⟨found, disbursed, n, hfound, hdisbursed, hn, admits, -⟩ :=
      @admits_career _ blank saved roadsReopened
        (fun front happens b => (fits front happens b).mono (by decide))
        (fun front happens => fits front ((List.prefix_append front [.reopening]).trans happens))
        (handedIn amount) (healthy .disbursements) (healthy .procurements)
    cases stored.symm.trans hfound
    cases paid.symm.trans hdisbursed
    cases last.symm.trans hn
    exact admits
  have checked : ∀ amount ∈ [units 3, units 4, units (Amount.size - 1)],
      Disbursement.checkFields partlyPaid.policy.addresses ((handedIn amount).scheduledAs 0) =
        .ok () := by
    rw [policy]
    decide +kernel
  have exceeds : ∀ amount ∈ [units 4, units (Amount.size - 1)],
      roads.amount.toNat < (units 7).toNat + amount.toNat := by decide +kernel
  generalize partlyPaid = ledger at *
  refine ⟨?_, fun amount more => ?_⟩
  · obtain ⟨id, total, hid, htotal, answered, enters⟩ := (verdicts (units 3)).entered
      (checked _ (List.mem_cons_self ..)) roads rfl (by decide) (by decide)
    obtain rfl : id = 2 := UInt64.toNat_inj.1 hid
    obtain rfl : total = units 10 := Amount.ext (htotal.trans (by decide))
    exact ⟨_, Prod.ext answered rfl, enters⟩
  · exact (verdicts amount).exceeded (checked _ (List.mem_cons_of_mem _ more)) roads rfl
      (exceeds amount more)

end Ledger

end PublicFunds
