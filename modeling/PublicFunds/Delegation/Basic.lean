import PublicFunds.Register.Vetted

/-!
# Delegations

A delegation hands the vote of one officer over to another, within a scope.  There is one
delegation for an officer and a scope; delegating again replaces it and makes it active.  A
delegation that is given up stays in the register, inactive.

* `Delegation.enter`: delegates.
* `Delegation.deactivate`: gives a delegation up.
-/

namespace PublicFunds

/-- The vote of an officer within a scope, in the hands of another. -/
structure Delegation where
  id : RecordId
  delegator : String
  delegatee : String
  scope : String
  /-- When the delegation ends, in units that its users agree on; zero if never. -/
  expiresAt : UInt64
  active : Bool
  metadataUri : String
  deriving DecidableEq, Repr

namespace Delegation

/-- A delegation that has not been entered yet. -/
def between (delegator delegatee scope : String) : Delegation :=
  ⟨0, delegator, delegatee, scope, 0, true, ""⟩

/-- How delegations are stored and shown. -/
def form : Form Delegation :=
  (Fields.field "id" .word64 <| .field "delegator" .text <| .field "delegatee" .text <|
    .field "scope" .text <| .field "expires_at" .word64 <| .field "active" .flag <|
    .field "metadata_uri" .text .nil).form.iso
    (fun d => (d.id, d.delegator, d.delegatee, d.scope, d.expiresAt, d.active, d.metadataUri, ()))
    (fun (id, delegator, delegatee, scope, expiresAt, active, metadataUri, ()) =>
      ⟨id, delegator, delegatee, scope, expiresAt, active, metadataUri⟩)

instance : Record Delegation where
  kind := "delegation"
  form := form
  id := id
  withId d id := { d with id }
  id_withId _ _ := rfl
  withId_id _ := rfl
  withId_withId _ _ _ := rfl

instance : Paired Delegation where
  pair d := .of d.delegator d.scope
  pair_withId _ _ := rfl

/-- A delegation is unique under its delegator and scope. -/
@[simp] theorem pair_eq (d : Delegation) : Paired.pair d = .of d.delegator d.scope := rfl

/-- The rules about the fields of a delegation. -/
def checkFields (format : AddressFormat) (d : Delegation) : Except RecordError Unit :=
  let defect := RecordError.invalid (Record.kind Delegation)
  Check.all [
    Check.require (!Text.isBlank d.delegator) (defect (.missing "delegator address")),
    Check.require (!Text.isBlank d.delegatee) (defect (.missing "delegatee address")),
    Check.require (!Text.isBlank d.scope) (defect (.missing "scope")),
    (format.check d.delegator).mapError (.badAddress (Record.kind Delegation) "delegator"),
    (format.check d.delegatee).mapError (.badAddress (Record.kind Delegation) "delegatee")]

instance : Vetted Delegation where
  idField := "delegation id"
  checkFields := checkFields

/-- Where delegations are in their store. -/
def register : Register Delegation := ⟨1, 2, some 3⟩

/-- Delegates. -/
def enter (format : AddressFormat) (store : Store) (d : Delegation) : Plan RecordId :=
  register.enter format store d fun d => { d with active := true }

/-- Gives a delegation up.  There is nothing to write if it has been given up before. -/
def deactivate (store : Store) (id : RecordId) : Plan Delegation :=
  match register.get store id with
  | .error e => .error (.register e)
  | .ok d =>
    if d.active then
      let d := { d with active := false }
      match register.stage d with
      | .error e => .error (.register e)
      | .ok batch => .ok (d, batch)
    else .ok (d, [])

end Delegation

end PublicFunds
