import PublicFunds.Approval.Quorum

/-!
# Which contract an approval was given under

A record has one contract, and its approvals do not say which contract they were given under.  A
later approval may bring another contract with it.  Then the record has this one, and the approvals
that do not conflict with the new one stay where they are.  So from the record alone it cannot be
told what the officers have signed.

It can be told from the approvals that were recorded, one after the other, if each is written down
together with the contract that it brought and the contract that the record had afterwards.  An
approval that is still there is one of these, and every contract that came after it is known.

* `Signing`: an approval that was recorded, and under which contract.
* `Endorsement.Step`: what can happen to an endorsement.
* `Endorsement.Traced`: where approvals come from, and what became of their contract.
* `Endorsement.Bound`: that nothing became of it.
* `Endorsement.Traced.step`: what is traced stays traced.
-/

namespace PublicFunds

/-- An approval that was recorded. -/
structure Signing where
  approval : Approval
  /-- The contract that came with it; blank if none did. -/
  brought : String
  /-- The contract of the record from then on. -/
  under : String
  deriving DecidableEq, Repr

namespace Signing

/-- The endorsement after an approval has been recorded. -/
def sign (s : Signing) (e : Endorsement) : Endorsement :=
  ⟨s.under, e.approvals.filter (fun earlier => !earlier.conflictsWith s.approval) ++ [s.approval]⟩

/-- The contracts that came with some approvals. -/
def contracts (signings : List Signing) : List String :=
  (signings.map brought).filter fun contract => !Text.isBlank contract

theorem contracts_append (first second : List Signing) :
    contracts (first ++ second) = contracts first ++ contracts second := by
  simp [contracts]

/-- The contract after one more approval is the one that came with it, or else what it was. -/
theorem getLastD_contracts_concat (signings : List Signing) (s : Signing) (contract : String) :
    (contracts (signings ++ [s])).getLastD contract =
      if Text.isBlank s.brought then (contracts signings).getLastD contract else s.brought := by
  rw [contracts_append]
  by_cases blank : Text.isBlank s.brought = true
  · simp [contracts, blank]
  · have alone : contracts [s] = [s.brought] := by simp [contracts, blank]
    rw [alone, List.getLastD_concat, if_neg blank]

end Signing

/-- An approval that passes is recorded under the contract that comes with it, or under the one that
is there. -/
theorem Policy.approve_eq_ok {policy : Policy} {scores : ScoreSource} {e e' : Endorsement}
    {a : Approval} {contract : String} (h : policy.approve scores e a contract = .ok e') :
    e' = Signing.sign ⟨a, contract, if Text.isBlank contract then e.contract else contract⟩ e := by
  unfold approve at h
  simp only at h
  generalize (if Text.isBlank contract = true then e.contract else contract) = under at h ⊢
  split at h
  · cases h
  · split at h
    · cases h
    · split at h
      · cases h
      · split at h
        · cases h
        · cases h
          rfl

namespace Endorsement

/-- What can happen to the endorsement of a record at a time, of a record that may not be there: it
is kept, a record without approvals is entered, or an approval is recorded. -/
inductive Step : Option Signing → Option Endorsement → Option Endorsement → Prop where
  | kept (seen : Option Endorsement) : Step .none seen seen
  | entered (contract : String) : Step .none .none (some ⟨contract, []⟩)
  | signed (s : Signing) (e : Endorsement)
      (under : s.under = if Text.isBlank s.brought then e.contract else s.brought) :
      Step (some s) (some e) (some (s.sign e))

/-- **Where the approvals of a record come from.**  Each of them was recorded at some time, and none
that was recorded later conflicts with it.  The contract of the record is the last one that came
with a later approval; if none came, it is the one under which the approval was recorded. -/
def Traced (signings : List Signing) (e : Endorsement) : Prop :=
  ∀ a ∈ e.approvals, ∃ earlier s later, signings = earlier ++ s :: later ∧ s.approval = a ∧
    (∀ t ∈ later, a.conflictsWith t.approval = false) ∧
    e.contract = (Signing.contracts later).getLastD s.under

/-- Every approval of a record was recorded under the contract that the record has. -/
def Bound (signings : List Signing) (e : Endorsement) : Prop :=
  ∀ a ∈ e.approvals, ∃ s ∈ signings, s.approval = a ∧ s.under = e.contract

instance (signings : List Signing) (e : Endorsement) : Decidable (e.Bound signings) :=
  inferInstanceAs (Decidable (∀ a ∈ e.approvals, ∃ s ∈ signings, s.approval = a ∧
    s.under = e.contract))

namespace Traced

variable {signings : List Signing} {e : Endorsement}

/-- Recording one more approval keeps it known where all of them come from. -/
theorem sign (h : e.Traced signings) {s : Signing}
    (under : s.under = if Text.isBlank s.brought then e.contract else s.brought) :
    (s.sign e).Traced (signings ++ [s]) := by
  intro a ha
  rcases List.mem_append.1 ha with stays | new
  · obtain ⟨there, apart⟩ := List.mem_filter.1 stays
    obtain ⟨earlier, t, later, rfl, same, free, contract⟩ := h a there
    refine ⟨earlier, t, later ++ [s], by simp, same, fun u hu => ?_, ?_⟩
    · rcases List.mem_append.1 hu with before | last
      · exact free u before
      · rw [List.mem_singleton.1 last]
        simpa using apart
    · show s.under = _
      rw [Signing.getLastD_contracts_concat, under, contract]
  · refine ⟨signings, s, [], rfl, (List.mem_singleton.1 new).symm, ?_, rfl⟩
    exact fun t ht => absurd ht List.not_mem_nil

/-- **What is traced stays traced**, whatever happens. -/
theorem step {happened : Option Signing} {seen seen' : Option Endorsement}
    (h : ∀ e ∈ seen, e.Traced signings) (step : Step happened seen seen') :
    ∀ e ∈ seen', e.Traced (signings ++ happened.toList) := by
  cases step with
  | kept =>
    rw [Option.toList_none, List.append_nil]
    exact h
  | entered contract =>
    rintro _ ⟨⟩ a ha
    exact absurd ha List.not_mem_nil
  | signed s e under =>
    rintro _ ⟨⟩
    exact (h e rfl).sign under

end Traced

end Endorsement

end PublicFunds
