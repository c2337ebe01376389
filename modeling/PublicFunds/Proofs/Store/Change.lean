import PublicFunds.Register.Vetted

/-!
# What a change leaves behind

A change of a store is worked out first and then carried out in one write.  Two things can happen.
Either it is refused, or its write fails, and the contents are what they were; or its batch has been
applied.  There is no third case, whatever the store lives in and whatever goes wrong, and that is
what every statement about the contents of a store after a change comes down to.

In a store in good health no question and no write fails.  Health is not something that a change
can take away, because what will go wrong is none of a change's business.

* `Store.carryOut_cases`: the two cases.
* `Store.carryOut_error`: a failure leaves the file alone as well.
* `Store.Writable.carryOut`: the one case that is left where writes succeed, once there is a plan.
* `Store.find_eq_ok`, `Store.contains_eq_ok`: an answer that is given is true.
-/

namespace PublicFunds

namespace Store

/-! ## Questions that are answered -/

theorem ask_eq_ok {α : Type} {store : Store} {query : Query} {answer given : α}
    (h : store.ask query answer = .ok given) : given = answer := by
  unfold ask at h
  split at h
  · cases h
  · exact (Except.ok.inj h).symm

theorem find_eq_ok {store : Store} {key : Bytes} {value : Option Bytes}
    (h : store.find key = .ok value) : value = store.entries.get? key :=
  ask_eq_ok h

theorem contains_eq_ok {store : Store} {key : Bytes} {b : Bool}
    (h : store.contains key = .ok b) : b = store.entries.contains key :=
  ask_eq_ok h

/-- Stores with the same contents and the same faults answer alike. -/
theorem find_congr {s t : Store} (entries : s.entries = t.entries) (faults : s.faults = t.faults)
    (key : Bytes) : s.find key = t.find key := by
  rw [find, find, ask, ask, entries, faults]

/-! ## Writing -/

theorem faults_write (store : Store) (batch : Batch) :
    (store.write batch).2.faults = store.faults := by
  unfold write
  cases store.medium with
  | memory =>
    simp only
    split <;> rfl
  | file disk =>
    simp only
    split <;> rfl

/-- Whether a write succeeds depends on what goes wrong and on nothing else. -/
theorem write_fst (store : Store) (batch : Batch) :
    (store.write batch).1 =
      match store.faults.write with
      | some failure => .error failure.fault
      | none => .ok () := by
  obtain ⟨entries, medium, faults⟩ := store
  cases medium with
  | memory => cases hw : faults.write <;> simp [write, hw]
  | file disk =>
    cases hw : faults.write with
    | none => simp [write, hw]
    | some failure =>
      have failed := (disk.save_some (Image.encode (entries.apply batch)) failure).1
      rcases hs : disk.save (Image.encode (entries.apply batch)) (some failure) with ⟨result, after⟩
      rw [hs] at failed
      simp only at failed
      subst failed
      simp only [write, hw, hs]

@[simp] theorem faults_commit (store : Store) (batch : Batch) :
    (store.commit batch).2.faults = store.faults := by
  unfold commit
  split
  · rfl
  · exact store.faults_write batch

/-- A commit has happened or has not. -/
theorem commit_cases (store : Store) (batch : Batch) :
    (∃ fault, (store.commit batch).1 = .error fault ∧
        (store.commit batch).2.entries = store.entries) ∨
      ((store.commit batch).1 = .ok () ∧
        (store.commit batch).2.entries = store.entries.apply batch) := by
  unfold commit
  split
  · next h =>
    subst h
    exact .inr ⟨rfl, rfl⟩
  · rcases hw : store.write batch with ⟨result, after⟩
    cases result with
    | error fault => exact .inl ⟨fault, rfl, (write_error hw).1⟩
    | ok u => exact .inr ⟨rfl, write_ok hw⟩

/-- **What a change leaves behind.**  Either it was refused or could not be written, and nothing has
changed; or there was a plan, its answer is given, and its batch has been applied. -/
theorem carryOut_cases {α : Type} (store : Store) (plan : Plan α) :
    (∃ e, (store.carryOut plan).1 = .error e ∧
        (store.carryOut plan).2.entries = store.entries) ∨
      ∃ answer batch, plan = .ok (answer, batch) ∧ (store.carryOut plan).1 = .ok answer ∧
        (store.carryOut plan).2.entries = store.entries.apply batch := by
  cases plan with
  | error e => exact .inl ⟨e, rfl, rfl⟩
  | ok p =>
    obtain ⟨answer, batch⟩ := p
    have cases := store.commit_cases batch
    rcases hc : store.commit batch with ⟨result, after⟩
    rw [hc] at cases
    rcases cases with ⟨fault, hfault, hentries⟩ | ⟨hok, hentries⟩
    · simp only at hfault
      subst hfault
      refine .inl ⟨.register (.store fault), ?_, ?_⟩
      · simp only [carryOut, hc]
      · simpa only [carryOut, hc] using hentries
    · simp only at hok
      subst hok
      refine .inr ⟨answer, batch, rfl, ?_, ?_⟩
      · simp only [carryOut, hc]
      · simpa only [carryOut, hc] using hentries

/-- **A change that fails leaves nothing behind**, neither among the contents nor in the file, if
that is not its own scratch file. -/
theorem carryOut_error {α : Type} {store : Store} {plan : Plan α} {e : RecordError}
    (h : (store.carryOut plan).1 = .error e) :
    (store.carryOut plan).2.entries = store.entries ∧
      (store.Apart → (store.carryOut plan).2.file? = store.file?) := by
  cases plan with
  | error _ => exact ⟨rfl, fun _ => rfl⟩
  | ok p =>
    obtain ⟨answer, batch⟩ := p
    rcases hc : store.commit batch with ⟨result, after⟩
    cases result with
    | error fault =>
      unfold commit at hc
      split at hc
      · cases hc
      · next written => simpa only [carryOut, commit, if_neg written, hc] using write_error hc
    | ok u =>
      simp only [carryOut, hc] at h
      cases h

/-- A change that has been worked out leaves what its commit leaves. -/
theorem carryOut_ok_snd {α : Type} (store : Store) (answer : α) (batch : Batch) :
    (store.carryOut (.ok (answer, batch))).2 = (store.commit batch).2 := by
  rcases hc : store.commit batch with ⟨result, after⟩
  cases result with
  | error fault => simp only [carryOut, hc]
  | ok u => simp only [carryOut, hc]

@[simp] theorem faults_carryOut {α : Type} (store : Store) (plan : Plan α) :
    (store.carryOut plan).2.faults = store.faults := by
  cases plan with
  | error e => rfl
  | ok p => rw [carryOut_ok_snd, faults_commit]

/-! ## Stores that can be written -/

/-- A write meets no fault. -/
def Writable (store : Store) : Prop := store.faults.write = none

namespace Writable

variable {store : Store}

/-- A write succeeds. -/
theorem write (h : store.Writable) (batch : Batch) :
    (store.write batch).1 = .ok () ∧ (store.write batch).2.entries = store.entries.apply batch := by
  obtain ⟨entries, medium, faults⟩ := store
  have none : faults.write = none := h
  cases medium with
  | memory => simp [Store.write, none]
  | file disk => simp [Store.write, none]

theorem commit (h : store.Writable) (batch : Batch) :
    (store.commit batch).1 = .ok () ∧
      (store.commit batch).2.entries = store.entries.apply batch := by
  unfold Store.commit
  split
  · next hb =>
    subst hb
    exact ⟨rfl, rfl⟩
  · exact h.write batch

/-- What has been worked out is done. -/
theorem carryOut {α : Type} (h : store.Writable) (answer : α) (batch : Batch) :
    (store.carryOut (.ok (answer, batch))).1 = .ok answer ∧
      (store.carryOut (.ok (answer, batch))).2.entries = store.entries.apply batch := by
  obtain ⟨hok, hentries⟩ := h.commit batch
  rcases hc : store.commit batch with ⟨result, after⟩
  rw [hc] at hok hentries
  simp only at hok
  subst hok
  simp only [Store.carryOut, hc]
  exact ⟨trivial, hentries⟩

end Writable

/-! ## Stores in good health -/

/-- Nothing goes wrong in a store. -/
def Healthy (store : Store) : Prop := store.faults = .none

/-- A store that nothing goes wrong in any more. -/
def mended (store : Store) : Store := { store with faults := .none }

theorem healthy_mended (store : Store) : store.mended.Healthy := rfl

namespace Healthy

variable {store : Store}

/-- A store in good health can be written. -/
theorem writable (h : store.Healthy) : store.Writable := congrArg Faults.write h

theorem ask {α : Type} (h : store.Healthy) (query : Query) (answer : α) :
    store.ask query answer = .ok answer := by
  rw [Store.ask, h]
  rfl

theorem find (h : store.Healthy) (key : Bytes) : store.find key = .ok (store.entries.get? key) :=
  h.ask _ _

theorem contains (h : store.Healthy) (key : Bytes) :
    store.contains key = .ok (store.entries.contains key) :=
  h.ask _ _

theorem scan (h : store.Healthy) (lead : Bytes) :
    store.scan lead = .ok (store.entries.startingWith lead) :=
  h.ask _ _

/-- A change leaves a store in good health. -/
theorem after {α : Type} (h : store.Healthy) (plan : Plan α) : (store.carryOut plan).2.Healthy :=
  (store.faults_carryOut plan).trans h

end Healthy

end Store

/-- Registers over stores with the same contents and the same faults find the same records. -/
theorem Register.find_congr {ρ : Type} [Record ρ] {r : Register ρ} {s t : Store}
    (entries : s.entries = t.entries) (faults : s.faults = t.faults) (id : RecordId) :
    r.find s id = r.find t id := by
  rw [find, find, Store.find_congr entries faults]

end PublicFunds
