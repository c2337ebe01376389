import PublicFunds.Disbursement.Basic
import PublicFunds.OrderedMap
import PublicFunds.Register.Tally

/-!
# Disbursed totals

What has been disbursed for a procurement is kept as a running total beside the disbursements, so
that a new one can be held against the amount of the procurement without adding everything up.  A
disbursement and the total that includes it are written together.

The totals can be checked against the disbursements at any time, and an export carries both.

* `Disbursement.sums`: the totals that some disbursements have.
* `Disbursement.enter`: a new disbursement, if it fits under the amount of its procurement.
* `Disbursement.verify`: whether the totals are the sums.
* `DisbursementSection`: the export.
-/

namespace PublicFunds

/-- Amounts by procurement. -/
abbrev Totals := OrderedMap RecordId Amount

namespace Disbursement

/-- Where the running totals are in the store. -/
def totals : Tally Amount := ⟨"disbursed total", 3, .amount⟩

/-- Adds some disbursements to totals, one after the other.  A total that leaves the range of
amounts is an error that names the procurement. -/
def addTo (sums : Totals) : List Disbursement → Except RecordId Totals
  | [] => .ok sums
  | d :: rest =>
    match ((sums.get? d.procurement).getD .zero).add? d.amount with
    | none => .error d.procurement
    | some total => addTo (sums.insert d.procurement total) rest

/-- The sums of some disbursements by procurement. -/
def sums (records : List Disbursement) : Except RecordId Totals := addTo .empty records

/-- What has been disbursed for a procurement. -/
def total (store : Store) (procurement : RecordId) : Except RegisterError Amount :=
  (totals.find store procurement).map (·.getD .zero)

/-- The total after a disbursement, if it is at most the amount of the procurement. -/
def totalWithin? (disbursed amount cap : Amount) : Option Amount :=
  match disbursed.add? amount with
  | none => none
  | some total => if total ≤ cap then some total else none

/-- Enters a disbursement for a procurement. -/
def enterFor (store : Store) (procurement : Procurement) (d : Disbursement) : Plan RecordId :=
  match total store d.procurement with
  | .error e => .error (.register e)
  | .ok disbursed =>
    match totalWithin? disbursed d.amount procurement.amount with
    | none => .error (.amountExceeded d.procurement d.amount disbursed procurement.amount)
    | some total =>
      match register.add store d with
      | .error e => .error (.register e)
      | .ok (d, batch) => .ok (d.id, batch ++ [totals.entry d.procurement total])

/-- Enters a disbursement. -/
def enter (format : AddressFormat) (store : Store) (procurements : ProcurementSource)
    (d : Disbursement) : Plan RecordId :=
  let d := Governed.fresh d
  match checkFields format d with
  | .error e => .error e
  | .ok () =>
    match procurements d.procurement with
    | .error e => .error (.register e)
    | .ok none => .error (.procurementMissing d.procurement)
    | .ok (some procurement) => enterFor store procurement d

/-! ## Checking the totals -/

/-- Holds stored totals against sums, one after the other, and returns the sums that no stored
total was held against. -/
def compareTotals (sums : Totals) : List (RecordId × Amount) → Except RecordError Totals
  | [] => .ok sums
  | (procurement, stored) :: rest =>
    let recomputed := (sums.get? procurement).getD .zero
    if stored = recomputed then compareTotals (sums.erase procurement) rest
    else .error (.totalsDisagree procurement stored recomputed)

/-- Whether the stored totals are the sums of the stored disbursements. -/
def verify (store : Store) : Except RecordError Unit :=
  match register.all store with
  | .error e => .error (.register e)
  | .ok records =>
    match sums records with
    | .error procurement => .error (.totalOverflow procurement)
    | .ok sums =>
      match totals.entries store with
      | .error e => .error (.register e)
      | .ok entries =>
        match compareTotals sums entries with
        | .error e => .error e
        | .ok rest =>
          match rest.toList with
          | [] => .ok ()
          | (procurement, recomputed) :: _ =>
            .error (.totalsDisagree procurement .zero recomputed)

end Disbursement

/-! ## Exporting and loading -/

/-- What has been disbursed for a procurement. -/
structure DisbursedTotal where
  procurement : RecordId
  total : Amount
  deriving DecidableEq, Repr

/-- How disbursed totals are shown. -/
def DisbursedTotal.form : Form DisbursedTotal :=
  (Fields.field "procurement_id" .word64 <| .field "total" .amount .nil).form.iso
    (fun t => (t.procurement, t.total, ()))
    (fun (procurement, total, ()) => ⟨procurement, total⟩)

/-- The section of disbursements, with their totals. -/
structure DisbursementSection where
  records : List Disbursement
  count : UInt64
  totals : List DisbursedTotal
  deriving DecidableEq, Repr

namespace DisbursementSection

/-- The section of a register that was never used. -/
def empty : DisbursementSection := ⟨[], 0, []⟩

instance : Inhabited DisbursementSection := ⟨empty⟩

/-- How the section is shown. -/
def form : Form DisbursementSection :=
  (Fields.field "records" Disbursement.form.list <| .field "count" .word64 <|
    .field "totals" DisbursedTotal.form.list .nil).form.iso
    (fun s => (s.records, s.count, s.totals, ()))
    (fun (records, count, totals, ()) => ⟨records, count, totals⟩)

/-- The section without the totals. -/
def toSection (s : DisbursementSection) : Section Disbursement := ⟨s.records, s.count⟩

/-- Puts some totals into a map; a second one for a procurement is an error. -/
def collect (seen : Totals) : List DisbursedTotal → Except GenesisError Totals
  | [] => .ok seen
  | t :: rest =>
    if seen.contains t.procurement then
      .error (.duplicateKey Disbursement.totals.kind (toString t.procurement))
    else collect (seen.insert t.procurement t.total) rest

/-- Compares exported totals with sums for some procurements, one after the other. -/
def compareAt (sums exported : Totals) : List RecordId → Except GenesisError Unit
  | [] => .ok ()
  | procurement :: rest =>
    let ours := (sums.get? procurement).getD .zero
    let theirs := (exported.get? procurement).getD .zero
    if ours = theirs then compareAt sums exported rest
    else
      .error (.totalMismatch (Record.kind Disbursement) procurement theirs.decimal ours.decimal)

/-- The sums of the records, if the totals of the section say the same. -/
def recompute (s : DisbursementSection) : Except GenesisError Totals :=
  match Disbursement.sums s.records with
  | .error procurement =>
    .error (.invalidRecord (Record.kind Disbursement) procurement "disbursed total overflows")
  | .ok sums =>
    match collect .empty s.totals with
    | .error e => .error e
    | .ok exported =>
      match compareAt sums exported (sums.keys ++ exported.keys) with
      | .error e => .error e
      | .ok () => .ok sums

end DisbursementSection

namespace Disbursement

/-- Everything that the store of disbursements holds. -/
def extract (store : Store) : Except RegisterError DisbursementSection :=
  match register.extract store with
  | .error e => .error e
  | .ok s =>
    match totals.entries store with
    | .error e => .error e
    | .ok entries =>
      .ok ⟨s.records, s.count, entries.map fun entry => ⟨entry.1, entry.2⟩⟩

/-- Loads a section.  The totals that are written are the sums of the records. -/
def load (format : AddressFormat) (store : Store) (s : DisbursementSection) : Plan Unit :=
  match Vetted.checkAll format s.records with
  | .error e => .error e
  | .ok () =>
    match s.recompute with
    | .error e => .error (.genesis e)
    | .ok sums =>
      match register.load store s.toSection with
      | .error e => .error (.genesis e)
      | .ok batch => .ok ((), batch ++ sums.toList.map fun entry => totals.entry entry.1 entry.2)

end Disbursement

end PublicFunds
