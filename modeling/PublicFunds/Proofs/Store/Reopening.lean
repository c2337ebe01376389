import Mathlib.Control.Monad.Basic
import PublicFunds.Proofs.Store.Change
import PublicFunds.Proofs.Store.Disk
import PublicFunds.Proofs.Store.Image

/-!
# A store on a file behaves like one in memory

A store on a file writes the whole file with every change, and after it has been closed it starts
from what it reads there.  Whoever uses it should not notice.  A store in memory that is never
closed, and that is asked to do the same, gives the same answers, at whatever points in between the
file is closed and opened again.

What carries this through a session is that the file is up to date: it holds the entries of the
store in the order of their keys, or it is not there yet and the store is empty.  A write that fails
keeps this too, because it leaves both alone.  For the file this takes that it is not its own
scratch file, and a store never moves to another file.

* `Store.Apart.carryOut`, `Store.Apart.of_reopen`: a file that is safe stays safe.
* `Store.Saved`: the file is up to date, and safe.
* `Store.Saved.write`, `Store.Saved.carryOut`: it stays so, whatever goes wrong.
* `Store.Saved.reopen`: a store whose file is up to date comes back as it was.
* `Store.Tidy.write`: a write that changes no entry changes nothing.
* `Store.Call`, `Store.exchange`: a session, call by call.
* `Store.Mirrors.call`: what one call keeps.
* `Store.exchange_onNoFile`: a whole session.
-/

namespace PublicFunds

/-! ## Short edits -/

/-- What an edit writes is shorter than a limit. -/
def Edit.Within (limit : Nat) : Edit → Prop
  | .put key value => key.length < limit ∧ value.length < limit
  | .delete _ => True

instance (limit : Nat) (e : Edit) : Decidable (e.Within limit) :=
  match e with
  | .put key value => inferInstanceAs (Decidable (key.length < limit ∧ value.length < limit))
  | .delete _ => .isTrue trivial

namespace Entries.Within

variable {limit : Nat} {entries : Entries}

theorem empty (limit : Nat) : Entries.Within limit .empty := fun _ _ found => nomatch found

theorem edit (h : entries.Within limit) {e : Edit} (short : e.Within limit) :
    (entries.edit e).Within limit := by
  cases e with
  | put key value => exact OrderedMap.forall_get?_insert h short
  | delete key =>
    intro k v found
    by_cases here : k = key
    · rw [here, Entries.edit, OrderedMap.get?_erase_self] at found
      cases found
    · rw [Entries.edit, OrderedMap.get?_erase_of_ne _ here] at found
      exact h k v found

/-- Entries stay short under a batch of short edits. -/
theorem apply (h : entries.Within limit) {batch : Batch} (short : ∀ e ∈ batch, e.Within limit) :
    (entries.apply batch).Within limit := by
  induction batch generalizing entries with
  | nil => exact h
  | cons e batch ih =>
    exact ih (h.edit (short e (List.mem_cons_self ..)))
      fun e' he' => short e' (List.mem_cons_of_mem _ he')

end Entries.Within

namespace Store

/-! ## Files that are up to date -/

/-- The file of a store, if it has one, is up to date, and it is not its own scratch file. -/
structure Saved (store : Store) : Prop where
  apart : store.Apart
  upToDate : ∀ disk, store.medium = .file disk →
    disk.file = some (Image.encode store.entries) ∨ disk.file = none ∧ store.entries = .empty

/-- A store of a node that has just been opened without a file. -/
def onNoFile (name : String) : Store :=
  ⟨.empty, .file (.holding (FileName.ofStore name) none), .none⟩

/-- A write that succeeds leaves a file with the entries. -/
theorem file?_write {store : Store} (persistent : store.isPersistent = true) {batch : Batch}
    (done : (store.write batch).1 = .ok ()) :
    (store.write batch).2.file? = some (Image.encode (store.write batch).2.entries) := by
  obtain ⟨entries, medium, faults⟩ := store
  cases medium with
  | memory => cases persistent
  | file disk =>
    cases hw : faults.write with
    | none => simp [write, hw, file?]
    | some failure =>
      have failed := (disk.save_some (Image.encode (entries.apply batch)) failure).1
      rcases hs : disk.save (Image.encode (entries.apply batch)) (some failure) with ⟨result, after⟩
      rw [hs] at failed
      simp only at failed
      subst failed
      simp [write, hw, hs] at done

/-- A store stays on its file. -/
theorem exists_disk_of_write {store : Store} {batch : Batch} {disk : Disk}
    (h : (store.write batch).2.medium = .file disk) :
    ∃ before, store.medium = .file before ∧ disk.name = before.name := by
  obtain ⟨entries, medium, faults⟩ := store
  cases medium with
  | memory => cases hw : faults.write <;> simp [write, hw] at h
  | file before =>
    have name := before.name_save (Image.encode (entries.apply batch)) faults.write
    rcases hs : before.save (Image.encode (entries.apply batch)) faults.write with ⟨result, after⟩
    rw [hs] at name
    have stays : after = disk := by cases result <;> simpa [write, hs] using h
    exact ⟨before, rfl, stays ▸ name⟩

theorem Apart.write {store : Store} (h : store.Apart) (batch : Batch) :
    (store.write batch).2.Apart := by
  intro disk onFile
  obtain ⟨before, onFile', name⟩ := exists_disk_of_write onFile
  rw [Disk.Apart, Disk.scratch, name]
  exact h before onFile'

/-- A change does not move a store to another file. -/
theorem Apart.carryOut {α : Type} {store : Store} (h : store.Apart) (plan : Plan α) :
    (store.carryOut plan).2.Apart := by
  cases plan with
  | error e => exact h
  | ok p =>
    rw [carryOut_ok_snd, commit]
    split
    · exact h
    · exact h.write p.2

theorem medium_of_openOn {disk : Disk} {store : Store} (h : openOn disk = .ok store) :
    store.medium = .file disk := by
  unfold openOn at h
  split at h
  · cases h
    rfl
  · split at h
    · cases h
    · cases h
      rfl

/-- Nor does opening it again. -/
theorem Apart.of_reopen {store again : Store} (h : store.Apart)
    (opens : store.reopen = .ok again) : again.Apart := by
  unfold Store.reopen at opens
  split at opens
  · cases opens
    exact fun disk onFile => nomatch onFile
  · next disk onFile =>
    intro disk' onFile'
    rw [medium_of_openOn opens] at onFile'
    cases onFile'
    exact h disk onFile

/-- A store stays where it lives. -/
@[simp] theorem isPersistent_write (store : Store) (batch : Batch) :
    (store.write batch).2.isPersistent = store.isPersistent := by
  obtain ⟨entries, medium, faults⟩ := store
  cases medium with
  | memory => cases hw : faults.write <;> simp [write, hw, isPersistent]
  | file disk =>
    rcases hs : disk.save (Image.encode (entries.apply batch)) faults.write with ⟨result, after⟩
    cases result <;> simp [write, hs, isPersistent]

namespace Saved

variable {store : Store}

theorem onNoFile (name : String) : (onNoFile name).Saved where
  apart disk same := by
    cases same
    exact Disk.apart_holding name none
  upToDate disk same := by
    cases same
    exact .inr ⟨rfl, rfl⟩

theorem of_memory (h : store.medium = .memory) : store.Saved where
  apart disk same := by
    rw [h] at same
    cases same
  upToDate disk same := by
    rw [h] at same
    cases same

/-- What the file of a persistent store holds. -/
theorem file?_eq (h : store.Saved) (persistent : store.isPersistent = true) :
    store.file? = some (Image.encode store.entries) ∨
      store.file? = none ∧ store.entries = .empty := by
  obtain ⟨entries, medium, faults⟩ := store
  cases medium with
  | memory => cases persistent
  | file disk => exact h.upToDate disk rfl

theorem of_file? (apart : store.Apart) (h : store.file? = some (Image.encode store.entries) ∨
    store.file? = none ∧ store.entries = .empty) : store.Saved where
  apart := apart
  upToDate disk same := by rwa [file?, same] at h

/-- **A write keeps the file up to date**, whether it succeeds or fails. -/
theorem write (h : store.Saved) (batch : Batch) : (store.write batch).2.Saved := by
  cases persistent : store.isPersistent with
  | false =>
    refine of_memory ?_
    have kept := (store.isPersistent_write batch).trans persistent
    cases hm : (store.write batch).2.medium with
    | memory => rfl
    | file disk =>
      rw [isPersistent, hm] at kept
      cases kept
  | true =>
    refine of_file? (h.apart.write batch) ?_
    cases answer : (store.write batch).1 with
    | ok u => exact .inl (file?_write persistent answer)
    | error fault =>
      obtain ⟨entries, file⟩ := write_error (Prod.ext answer rfl)
      rw [entries, file h.apart]
      exact h.file?_eq persistent

theorem commit (h : store.Saved) (batch : Batch) : (store.commit batch).2.Saved := by
  unfold Store.commit
  split
  · exact h
  · exact h.write batch

/-- A change keeps the file up to date. -/
theorem carryOut {α : Type} (h : store.Saved) (plan : Plan α) :
    (store.carryOut plan).2.Saved := by
  cases plan with
  | error e => exact h
  | ok p =>
    rw [carryOut_ok_snd]
    exact h.commit p.2

/-- **A store whose file is up to date comes back as it was.**  A scratch file that was left behind
is not looked at. -/
theorem reopen (h : store.Saved) (within : store.entries.Within (Bytes.reach 4)) {disk : Disk}
    (onFile : store.medium = .file disk) :
    store.reopen = .ok ⟨store.entries, .file disk, .none⟩ := by
  rw [Store.reopen, onFile]
  simp only
  rcases h.upToDate disk onFile with file | ⟨file, blank⟩
  · simp only [openOn, file, Image.decode_encode within]
  · simp only [openOn, file, blank]

end Saved

/-! ## Files that have just been written -/

/-- The file of a store, if it has one, is up to date, and no scratch file is left beside it: to save
it once more would change nothing. -/
def Tidy (store : Store) : Prop :=
  ∀ disk, store.medium = .file disk → disk.saved (Image.encode store.entries) = disk

section Tidy

variable {store : Store} {batch : Batch}

/-- A write leaves a tidy store. -/
theorem Writable.tidy_write (h : store.Writable) (batch : Batch) : (store.write batch).2.Tidy := by
  obtain ⟨entries, medium, faults⟩ := store
  have none : faults.write = none := h
  intro disk onFile
  cases medium with
  | memory => simp [Store.write, none] at onFile
  | file before =>
    simp only [Store.write, none, Disk.save_none] at onFile
    cases onFile
    simp [Store.write, none]

/-- A change leaves a tidy store if there is something to write. -/
theorem Writable.tidy_carryOut {α : Type} (h : store.Writable) (answer : α) (some : batch ≠ []) :
    (store.carryOut (.ok (answer, batch))).2.Tidy := by
  rw [carryOut_ok_snd, Store.commit, if_neg some]
  exact h.tidy_write batch

/-- A write that changes no entry of a tidy store changes nothing at all. -/
theorem Tidy.write (h : store.Tidy) (writable : store.Writable)
    (same : store.entries.apply batch = store.entries) : store.write batch = (.ok (), store) := by
  obtain ⟨entries, medium, faults⟩ := store
  have none : faults.write = none := writable
  cases medium with
  | memory => simp only [Store.write, none, same]
  | file disk => simp only [Store.write, none, same, Disk.save_none, h disk rfl]

theorem Tidy.carryOut {α : Type} (h : store.Tidy) (writable : store.Writable) (answer : α)
    (same : store.entries.apply batch = store.entries) :
    store.carryOut (.ok (answer, batch)) = (.ok answer, store) := by
  have done : store.commit batch = (.ok (), store) := by
    unfold Store.commit
    split
    · rfl
    · exact h.write writable same
  simp only [Store.carryOut, done]

end Tidy

/-- **What a store comes back as** whose file is up to date.  Without a file it is empty. -/
theorem Saved.exists_reopen {store : Store} (h : store.Saved)
    (within : store.entries.Within (Bytes.reach 4)) :
    ∃ again, store.reopen = .ok again ∧ again.Saved ∧ again.Healthy ∧
      (again.entries = store.entries ∨ again.entries = .empty) ∧
      (store.isPersistent = true →
        again.isPersistent = true ∧ again.entries = store.entries ∧ (store.Tidy → again.Tidy)) := by
  cases hm : store.medium with
  | memory =>
    refine ⟨Store.inMemory, by rw [Store.reopen, hm], .of_memory rfl, rfl, .inr rfl, ?_⟩
    intro persistent
    rw [isPersistent, hm] at persistent
    cases persistent
  | file disk =>
    refine ⟨_, h.reopen within hm, ⟨?_, ?_⟩, rfl, .inl rfl, fun _ => ⟨rfl, rfl, fun tidy => ?_⟩⟩
    · intro disk' same
      cases same
      exact h.apart disk hm
    · intro disk' same
      cases same
      exact h.upToDate disk hm
    · intro disk' same
      cases same
      exact tidy disk hm

/-! ## Sessions -/

/-- A call to a store. -/
inductive Call where
  | find (key : Bytes)
  | contains (key : Bytes)
  | scan (lead : Bytes)
  | put (key value : Bytes)
  | delete (key : Bytes)
  /-- Applies a batch, which may be empty. -/
  | write (batch : Batch)
  /-- Applies a batch unless it is empty. -/
  | commit (batch : Batch)
  /-- Closes the store and opens it again. -/
  | reopen
  deriving DecidableEq, Repr

/-- What a call answers. -/
inductive Reply where
  | value (value : Option Bytes)
  | flag (flag : Bool)
  | entries (entries : List (Bytes × Bytes))
  | done
  deriving DecidableEq, Repr

/-- The answer to a call that was a write. -/
def written (result : Except StoreFault Unit × Store) : Except StoreFault Reply × Store :=
  (result.1.map fun () => .done, result.2)

/-- A call and the store after it.  A store that cannot be opened again stays as it is. -/
def call (store : Store) : Call → Except StoreFault Reply × Store
  | .find key => ((store.find key).map .value, store)
  | .contains key => ((store.contains key).map .flag, store)
  | .scan lead => ((store.scan lead).map .entries, store)
  | .put key value => written (store.write [.put key value])
  | .delete key => written (store.write [.delete key])
  | .write batch => written (store.write batch)
  | .commit batch => written (store.commit batch)
  | .reopen =>
    match store.reopen with
    | .error fault => (.error fault, store)
    | .ok store => (.ok .done, store)

/-- The store after some calls in a row. -/
def after (store : Store) (calls : List Call) : Store :=
  calls.foldl (fun store c => (store.call c).2) store

/-- Some calls in a row with their answers. -/
def exchange (store : Store) : List Call → List (Call × Except StoreFault Reply)
  | [] => []
  | c :: calls => (c, (store.call c).1) :: (store.call c).2.exchange calls

namespace Call

/-- The edits that a call asks for. -/
def edits : Call → Batch
  | .put key value => [.put key value]
  | .delete key => [.delete key]
  | .write batch => batch
  | .commit batch => batch
  | _ => []

/-- A call that writes the file: every change does, also one without an edit, but an empty batch
that is committed is no change. -/
def Writes : Call → Prop
  | .put .. => True
  | .delete _ => True
  | .write _ => True
  | .commit batch => batch ≠ []
  | _ => False

end Call

/-- A store on a file and one in memory that cannot be told apart. -/
structure Mirrors (store memory : Store) : Prop where
  onFile : store.isPersistent = true
  inMemory : memory.isPersistent = false
  saved : store.Saved
  entries : store.entries = memory.entries
  within : store.entries.Within (Bytes.reach 4)
  healthy : store.Healthy
  healthy' : memory.Healthy

namespace Mirrors

variable {store memory : Store}

theorem start (name : String) : Mirrors (Store.onNoFile name) Store.inMemory :=
  ⟨rfl, rfl, .onNoFile name, rfl, .empty _, rfl, rfl⟩

theorem reopen (h : Mirrors store memory) :
    (store.call .reopen).1 = .ok .done ∧ Mirrors (store.call .reopen).2 memory := by
  obtain ⟨again, opens, saved, healthy, -, back⟩ := h.saved.exists_reopen h.within
  obtain ⟨onFile, entries, -⟩ := back h.onFile
  rw [call, opens]
  refine ⟨rfl, onFile, h.inMemory, saved, entries.trans h.entries, ?_, healthy, h.healthy'⟩
  rw [entries]
  exact h.within

/-- A batch for both. -/
theorem write (h : Mirrors store memory) {batch : Batch}
    (short : ∀ e ∈ batch, e.Within (Bytes.reach 4)) :
    (store.write batch).1 = (memory.write batch).1 ∧
      Mirrors (store.write batch).2 (memory.write batch).2 ∧
      (store.write batch).2.file? = some (Image.encode (store.write batch).2.entries) := by
  obtain ⟨done, applied⟩ := h.healthy.writable.write batch
  obtain ⟨done', applied'⟩ := h.healthy'.writable.write batch
  refine ⟨done.trans done'.symm, ?_, file?_write h.onFile done⟩
  exact {
    onFile := (store.isPersistent_write batch).trans h.onFile
    inMemory := (memory.isPersistent_write batch).trans h.inMemory
    saved := h.saved.write batch
    entries := by rw [applied, applied', h.entries]
    within := by
      rw [applied]
      exact h.within.apply short
    healthy := (store.faults_write batch).trans h.healthy
    healthy' := (memory.faults_write batch).trans h.healthy' }

theorem commit (h : Mirrors store memory) {batch : Batch}
    (short : ∀ e ∈ batch, e.Within (Bytes.reach 4)) :
    (store.commit batch).1 = (memory.commit batch).1 ∧
      Mirrors (store.commit batch).2 (memory.commit batch).2 ∧
      (batch ≠ [] →
        (store.commit batch).2.file? = some (Image.encode (store.commit batch).2.entries)) := by
  unfold Store.commit
  split
  · next nothing => exact ⟨rfl, h, fun something => absurd nothing something⟩
  · obtain ⟨same, mirrors, file⟩ := h.write short
    exact ⟨same, mirrors, fun _ => file⟩

/-- **One call to both.**  The answers are the same and the stores go on mirroring each other, and
a call that writes leaves a file with exactly the entries. -/
theorem call (h : Mirrors store memory) {c : Call} (stays : c ≠ .reopen)
    (short : ∀ e ∈ c.edits, e.Within (Bytes.reach 4)) :
    (store.call c).1 = (memory.call c).1 ∧ Mirrors (store.call c).2 (memory.call c).2 ∧
      (c.Writes → (store.call c).2.file? = some (Image.encode (store.call c).2.entries)) := by
  have written {first second : Except StoreFault Unit × Store} (same : first.1 = second.1)
      (mirrors : Mirrors first.2 second.2) : (Store.written first).1 = (Store.written second).1 ∧
        Mirrors (Store.written first).2 (Store.written second).2 :=
    ⟨by rw [Store.written, Store.written, same], mirrors⟩
  cases c with
  | find key =>
    refine ⟨?_, h, False.elim⟩
    rw [Store.call, Store.call, h.healthy.find, h.healthy'.find, h.entries]
  | contains key =>
    refine ⟨?_, h, False.elim⟩
    rw [Store.call, Store.call, h.healthy.contains, h.healthy'.contains, h.entries]
  | scan lead =>
    refine ⟨?_, h, False.elim⟩
    rw [Store.call, Store.call, h.healthy.scan, h.healthy'.scan, h.entries]
  | put key value =>
    obtain ⟨same, mirrors, file⟩ := h.write short
    exact ⟨(written same mirrors).1, (written same mirrors).2, fun _ => file⟩
  | delete key =>
    obtain ⟨same, mirrors, file⟩ := h.write short
    exact ⟨(written same mirrors).1, (written same mirrors).2, fun _ => file⟩
  | write batch =>
    obtain ⟨same, mirrors, file⟩ := h.write short
    exact ⟨(written same mirrors).1, (written same mirrors).2, fun _ => file⟩
  | commit batch =>
    obtain ⟨same, mirrors, file⟩ := h.commit short
    exact ⟨(written same mirrors).1, (written same mirrors).2, file⟩
  | reopen => exact absurd rfl stays

end Mirrors

/-- The calls of a session without those that close the store and open it again. -/
abbrev Call.uninterrupted (calls : List Call) : List Call := calls.filter (· ≠ .reopen)

/-- Stores that mirror each other do so after every session. -/
theorem Mirrors.after {store memory : Store} (h : Mirrors store memory) {calls : List Call}
    (short : ∀ c ∈ calls, ∀ e ∈ c.edits, e.Within (Bytes.reach 4)) :
    Mirrors (store.after calls) (memory.after (Call.uninterrupted calls)) := by
  induction calls generalizing store memory with
  | nil => exact h
  | cons c calls ih =>
    have rest := fun c' hc' => short c' (List.mem_cons_of_mem _ hc')
    by_cases hc : c = .reopen
    · subst hc
      exact ih h.reopen.2 rest
    · rw [Call.uninterrupted, List.filter_cons_of_pos (by simpa using hc)]
      exact ih (h.call hc (short c (List.mem_cons_self ..))).2.1 rest

/-- Stores that mirror each other answer every session alike. -/
theorem Mirrors.exchange {store memory : Store} (h : Mirrors store memory) {calls : List Call}
    (short : ∀ c ∈ calls, ∀ e ∈ c.edits, e.Within (Bytes.reach 4)) :
    (store.exchange calls).filter (·.1 ≠ .reopen) =
        memory.exchange (Call.uninterrupted calls) ∧
      ∀ answer, (.reopen, answer) ∈ store.exchange calls → answer = .ok .done := by
  induction calls generalizing store memory with
  | nil => exact ⟨rfl, fun answer none => absurd none List.not_mem_nil⟩
  | cons c calls ih =>
    have rest := fun c' hc' => short c' (List.mem_cons_of_mem _ hc')
    rw [Store.exchange]
    by_cases hc : c = .reopen
    · subst hc
      obtain ⟨reopened, mirrors⟩ := h.reopen
      obtain ⟨same, opened⟩ := ih mirrors rest
      refine ⟨same, fun answer there => ?_⟩
      rcases List.mem_cons.1 there with here | later
      · rw [(Prod.mk.inj here).2, reopened]
      · exact opened answer later
    · obtain ⟨answered, mirrors, -⟩ := h.call hc (short c (List.mem_cons_self ..))
      obtain ⟨same, opened⟩ := ih mirrors rest
      constructor
      · rw [Call.uninterrupted, List.filter_cons_of_pos (by simpa using hc),
          List.filter_cons_of_pos (by simpa using hc), Store.exchange, same, answered]
      · intro answer there
        rcases List.mem_cons.1 there with here | later
        · exact absurd (Prod.mk.inj here).1.symm hc
        · exact opened answer later

/-- **A store on a file answers like one in memory that is never closed.**  A session may close the
store and open it again at any points, and this succeeds.  All other calls are answered as in
memory.  After every call that writes, the file holds exactly the entries, which are those of the
store in memory, in the order of their keys. -/
theorem exchange_onNoFile (name : String) {calls : List Call}
    (short : ∀ c ∈ calls, ∀ e ∈ c.edits, e.Within (Bytes.reach 4)) :
    (((onNoFile name).exchange calls).filter (·.1 ≠ .reopen) =
        inMemory.exchange (Call.uninterrupted calls) ∧
      ∀ answer, (.reopen, answer) ∈ (onNoFile name).exchange calls → answer = .ok .done) ∧
      ∀ front c, front ++ [c] <+: calls →
        ((onNoFile name).after (front ++ [c])).entries =
            (inMemory.after (Call.uninterrupted (front ++ [c]))).entries ∧
          (c.Writes → ((onNoFile name).after (front ++ [c])).file? =
            some (Image.encode ((onNoFile name).after (front ++ [c])).entries)) := by
  refine ⟨(Mirrors.start name).exchange short, fun front c happens => ?_⟩
  have within : ∀ c' ∈ front ++ [c], ∀ e ∈ c'.edits, e.Within (Bytes.reach 4) :=
    fun c' hc' => short c' (happens.subset hc')
  refine ⟨((Mirrors.start name).after within).entries, fun writes => ?_⟩
  have stays : c ≠ .reopen := by
    rintro rfl
    exact writes
  have before := (Mirrors.start name).after fun c' hc' => within c' (List.mem_append_left _ hc')
  have here := within c (List.mem_append_right _ (List.mem_singleton.2 rfl))
  rw [after, List.foldl_append]
  exact (before.call stays here).2.2 writes

/-- A key is written over and deleted in one batch, an absent key is deleted, nothing is written,
and the store is closed in between. -/
def interrupted : List Call :=
  [.reopen, .write [.put [1] [7], .put [2] [8], .put [1] [9], .delete [2]], .reopen, .delete [5],
    .commit [], .find [1], .reopen, .put [1, 0] [], .write [], .reopen, .scan [1], .contains [2]]

/-- The session ends with the entries in the file. -/
theorem exchange_interrupted :
    ((onNoFile "notes").exchange interrupted).filter (·.1 ≠ .reopen) =
        inMemory.exchange (Call.uninterrupted interrupted) ∧
      ((onNoFile "notes").exchange interrupted)[10]? =
        some (.scan [1], .ok (.entries [([1], [9]), ([1, 0], [])])) ∧
      ((onNoFile "notes").after interrupted).file? =
        some [1, 0, 0, 0, 1, 1, 0, 0, 0, 9, 2, 0, 0, 0, 1, 0, 0, 0, 0, 0] := by
  have short : ∀ c ∈ interrupted, ∀ e ∈ c.edits, e.Within (Bytes.reach 4) := by decide +kernel
  obtain ⟨⟨same, -⟩, -⟩ := @exchange_onNoFile "notes" interrupted short
  exact ⟨same, by decide +kernel, by decide +kernel⟩

end Store

end PublicFunds
