import PublicFunds.Store.Disk
import PublicFunds.Store.Image

/-!
# Stores

A store answers questions about its contents and takes batches of edits.  It lives in memory alone,
or keeps a file that follows every change.  Any question may fail, and so may a write; a write that
fails has not happened.

What goes wrong is data here: a store carries which of the questions that it may be asked will
fail, and how its next write will.  A store in good health has no such faults.

* `Store.find`, `Store.contains`, `Store.scan`: the questions.
* `Store.write`: a batch.  `Store.commit` is the same but has nothing to do for an empty batch.
* `Store.openOn`, `Store.reopen`: a store from its file.
-/

namespace PublicFunds

namespace Store

/-- A question that leaves a store as it is. -/
inductive Query where
  /-- The value under a key. -/
  | value (key : Bytes)
  /-- Whether there is one. -/
  | presence (key : Bytes)
  /-- The entries whose key starts with `lead`. -/
  | scan (lead : Bytes)
  deriving DecidableEq, Repr

/-- What will go wrong. -/
structure Faults where
  /-- The fault that a question meets. -/
  read : Query → Option StoreFault
  /-- The fault that a write meets. -/
  write : Option WriteFault

/-- Nothing goes wrong. -/
def Faults.none : Faults := ⟨fun _ => .none, .none⟩

/-- Where a store lives. -/
inductive Medium where
  /-- In memory: it is gone when it is closed. -/
  | memory
  /-- In memory and in a file. -/
  | file (disk : Disk)
  deriving DecidableEq

end Store

/-- A store of values under keys. -/
structure Store where
  entries : Entries
  medium : Store.Medium
  faults : Store.Faults

namespace Store

/-- An empty store in memory. -/
def inMemory : Store := ⟨.empty, .memory, .none⟩

/-- The store that the file in a directory describes; without the file it is empty. -/
def openOn (disk : Disk) : Except StoreFault Store :=
  match disk.file with
  | none => .ok ⟨.empty, .file disk, .none⟩
  | some contents =>
    match Image.decode contents with
    | .error fault => .error fault
    | .ok entries => .ok ⟨entries, .file disk, .none⟩

/-- The store after closing and opening it. -/
def reopen (store : Store) : Except StoreFault Store :=
  match store.medium with
  | .memory => .ok inMemory
  | .file disk => openOn disk

/-- Whether the store outlives its closing. -/
def isPersistent (store : Store) : Bool :=
  match store.medium with
  | .memory => false
  | .file _ => true

/-- The contents of the file, if the store has one. -/
def file? (store : Store) : Option Bytes :=
  match store.medium with
  | .memory => none
  | .file disk => disk.file

/-- The file of a store, if it has one, is not its own scratch file. -/
def Apart (store : Store) : Prop := ∀ disk, store.medium = .file disk → disk.Apart

/-! ## Questions -/

/-- The answer to a question, unless the question fails. -/
def ask {α : Type} (store : Store) (query : Query) (answer : α) : Except StoreFault α :=
  match store.faults.read query with
  | some fault => .error fault
  | none => .ok answer

/-- The value under a key. -/
def find (store : Store) (key : Bytes) : Except StoreFault (Option Bytes) :=
  store.ask (.value key) (store.entries.get? key)

/-- Whether there is a value under a key. -/
def contains (store : Store) (key : Bytes) : Except StoreFault Bool :=
  store.ask (.presence key) (store.entries.contains key)

/-- The entries whose key starts with `lead`, ascending. -/
def scan (store : Store) (lead : Bytes) : Except StoreFault (List (Bytes × Bytes)) :=
  store.ask (.scan lead) (store.entries.startingWith lead)

/-! ## Writes -/

/-- Applies a batch and saves the file, if there is one. -/
def write (store : Store) (batch : Batch) : Except StoreFault Unit × Store :=
  let entries := store.entries.apply batch
  match store.medium with
  | .memory =>
    match store.faults.write with
    | some failure => (.error failure.fault, store)
    | none => (.ok (), { store with entries })
  | .file disk =>
    match disk.save (Image.encode entries) store.faults.write with
    | (.error fault, disk) => (.error fault, { store with medium := .file disk })
    | (.ok (), disk) => (.ok (), { store with entries, medium := .file disk })

/-- Applies a batch; an empty one needs no write. -/
def commit (store : Store) (batch : Batch) : Except StoreFault Unit × Store :=
  if batch = [] then (.ok (), store) else store.write batch

/-- A write that fails leaves the contents alone, and the file if it is not its own scratch file. -/
theorem write_error {store : Store} {batch : Batch} {fault : StoreFault} {after : Store}
    (h : store.write batch = (.error fault, after)) :
    after.entries = store.entries ∧ (store.Apart → after.file? = store.file?) := by
  obtain ⟨entries, medium, faults⟩ := store
  cases medium with
  | memory =>
    cases hw : faults.write with
    | none => simp [write, hw] at h
    | some failure =>
      simp only [write, hw, Prod.mk.injEq] at h
      rw [← h.2]
      exact ⟨rfl, fun _ => rfl⟩
  | file disk =>
    cases hw : faults.write with
    | none => simp [write, hw] at h
    | some failure =>
      have failed := (disk.save_some (Image.encode (entries.apply batch)) failure).1
      have file := disk.file_save_some (Image.encode (entries.apply batch)) failure
      rcases hs : disk.save (Image.encode (entries.apply batch)) (some failure) with ⟨result, disk'⟩
      rw [hs] at failed file
      simp only at failed file
      subst failed
      simp only [write, hw, hs, Prod.mk.injEq] at h
      rw [← h.2]
      exact ⟨rfl, fun apart => file.trans (if_pos (apart disk rfl))⟩

/-- A write that succeeds has applied the batch. -/
theorem write_ok {store : Store} {batch : Batch} {after : Store}
    (h : store.write batch = (.ok (), after)) : after.entries = store.entries.apply batch := by
  obtain ⟨entries, medium, faults⟩ := store
  cases medium with
  | memory =>
    cases hw : faults.write with
    | none =>
      simp only [write, hw, Prod.mk.injEq] at h
      rw [← h.2]
    | some failure => simp [write, hw] at h
  | file disk =>
    rcases hs : disk.save (Image.encode (entries.apply batch)) faults.write with ⟨result, disk'⟩
    cases result with
    | error fault => simp [write, hs] at h
    | ok u =>
      simp only [write, hs, Prod.mk.injEq] at h
      rw [← h.2]

end Store

end PublicFunds
