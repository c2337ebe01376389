import PublicFunds.Form.Fields
import PublicFunds.Key

/-!
# Records

A record is a value with an id that the ledger gives out.  Zero is the id of a record that has not
been given one.  Records of some kinds are also unique under a pair of names.
-/

namespace PublicFunds

/-- The number that a record is known by within its kind. -/
abbrev RecordId := UInt64

/-- A kind of value that has an id and a form. -/
class Record (ρ : Type) where
  /-- What a record is called in messages. -/
  kind : String
  form : Form ρ
  id : ρ → RecordId
  withId : ρ → RecordId → ρ
  id_withId : ∀ r i, id (withId r i) = i
  withId_id : ∀ r, withId r (id r) = r
  withId_withId : ∀ r i j, withId (withId r i) j = withId r j

/-- A kind of record that is unique under a pair of names. -/
class Paired (ρ : Type) [Record ρ] where
  pair : ρ → PairKey
  pair_withId : ∀ r i, pair (Record.withId r i) = pair r

/-- Records that are looked up by id although they are not in any register; of two with one id the
later counts. -/
def Record.sourceOf {ρ ε : Type} [Record ρ] (records : List ρ) : RecordId → Except ε (Option ρ) :=
  fun i => .ok (records.reverse.find? fun r => Record.id r = i)

attribute [simp] Record.id_withId Record.withId_id Record.withId_withId Paired.pair_withId

end PublicFunds
