import PublicFunds.Bytes.Basic
import PublicFunds.OrderedMap
import PublicFunds.Store.Fault

/-!
# Saving a file without losing it

A store saves its whole file whenever it changes.  It writes the new contents into a scratch file
beside the file and then puts that in the place of the file in one step, so whoever reads the file
sees either the old contents or the new, also if any of the calls fails.

The scratch file is called like the file, but with the extension `tmp`.  Nothing keeps a file from
being called so itself.  Then it is its own scratch file, and a save that fails may have spoiled it.
The stores of a node are safe, since their files have another extension.

* `FileName.scratch`, `FileName.ofStore`: the name of a scratch file, and that of a store of a node.
* `Disk.save`: the calls of a save, up to the one that fails.
* `Disk.save_some`, `Disk.file_save_some`: what a save that fails leaves behind.
-/

namespace PublicFunds

/-! ## Names of files -/

namespace FileName

/-- What stands before the last dot, if there is one. -/
def beforeLastDot? : List Char → Option (List Char)
  | [] => none
  | c :: rest =>
    match beforeLastDot? rest with
    | some before => some (c :: before)
    | none => if c = '.' then some [] else none

/-- The name without its extension.  A dot at the front does not begin an extension. -/
def stem (name : List Char) : List Char :=
  match beforeLastDot? name with
  | some (c :: before) => c :: before
  | _ => name

/-- The extension of a scratch file. -/
def scratchExtension : List Char := ['.', 't', 'm', 'p']

/-- The name of the scratch file beside a file. -/
def scratch (name : String) : String := .ofList (stem name.toList ++ scratchExtension)

/-- The name of the file in which a node keeps a store. -/
def ofStore (store : String) : String := store ++ ".tcdb"

end FileName

/-! ## The calls of a save -/

/-- The directory of a store: what its file is called, and what the files there hold. -/
structure Disk where
  name : String
  files : OrderedMap String Bytes
  deriving DecidableEq

/-- The calls of a save, each done once. -/
inductive SaveCall where
  /-- Makes sure that the directory is there. -/
  | makeDirectory
  /-- Opens an empty scratch file. -/
  | createScratch
  /-- Writes the new contents into it. -/
  | writeScratch
  /-- Waits until they have reached the disk. -/
  | syncScratch
  /-- Puts the scratch file in the place of the file. -/
  | replaceFile
  deriving DecidableEq, Repr

/-- A write that fails: at which call of a save, after how many bytes if it is the writing itself,
and why.  A store without a file fails for the reason alone. -/
structure WriteFault where
  call : SaveCall
  written : Nat
  fault : StoreFault
  deriving DecidableEq, Repr

namespace Disk

/-- A directory in which there is no file but that of the store, if there is one. -/
def holding (name : String) (file : Option Bytes) : Disk :=
  match file with
  | none => ⟨name, .empty⟩
  | some contents => ⟨name, OrderedMap.empty.insert name contents⟩

/-- The contents of the file, if there is one. -/
def file (disk : Disk) : Option Bytes := disk.files.get? disk.name

/-- The name of the scratch file. -/
def scratch (disk : Disk) : String := FileName.scratch disk.name

/-- The file is not its own scratch file. -/
def Apart (disk : Disk) : Prop := disk.scratch ≠ disk.name

instance (disk : Disk) : Decidable disk.Apart := inferInstanceAs (Decidable (_ ≠ _))

/-- Puts contents into a file. -/
def put (disk : Disk) (name : String) (contents : Bytes) : Disk :=
  { disk with files := disk.files.insert name contents }

/-- Puts a file in the place of another. -/
def move (disk : Disk) (source target : String) : Disk :=
  match disk.files.get? source with
  | none => disk
  | some contents => { disk with files := (disk.files.erase source).insert target contents }

/-- The order of the calls. -/
def calls : List SaveCall :=
  [.makeDirectory, .createScratch, .writeScratch, .syncScratch, .replaceFile]

/-- What a call does. -/
def perform (contents : Bytes) (disk : Disk) : SaveCall → Disk
  | .makeDirectory => disk
  | .createScratch => disk.put disk.scratch []
  | .writeScratch => disk.put disk.scratch contents
  | .syncScratch => disk
  | .replaceFile => disk.move disk.scratch disk.name

/-- What a call leaves behind that fails: only the writing can be done in part. -/
def interrupt (contents : Bytes) (written : Nat) (disk : Disk) : SaveCall → Disk
  | .writeScratch => disk.put disk.scratch (contents.take written)
  | _ => disk

/-- Does some calls in order and stops at the one that fails, if it is among them. -/
def run (contents : Bytes) (failing : Option WriteFault) :
    List SaveCall → Disk → Except StoreFault Unit × Disk
  | [], disk => (.ok (), disk)
  | call :: rest, disk =>
    match failing with
    | none => run contents none rest (disk.perform contents call)
    | some failure =>
      if failure.call = call then (.error failure.fault, disk.interrupt contents failure.written call)
      else run contents (some failure) rest (disk.perform contents call)

/-- Puts new contents in the place of the old. -/
def save (disk : Disk) (contents : Bytes) (failing : Option WriteFault) :
    Except StoreFault Unit × Disk :=
  run contents failing calls disk

/-! ## What a save leaves behind -/

/-- The directory after a save that meets no failure: the file is new and the scratch file gone. -/
def saved (disk : Disk) (contents : Bytes) : Disk :=
  { disk with files := (disk.files.erase disk.scratch).insert disk.name contents }

@[simp] theorem file_saved (disk : Disk) (contents : Bytes) :
    (disk.saved contents).file = some contents := OrderedMap.get?_insert_self ..

/-- A save that meets no failure does what it should. -/
@[simp] theorem save_none (disk : Disk) (contents : Bytes) :
    disk.save contents none = (.ok (), disk.saved contents) := by
  have written : ((disk.put disk.scratch []).put disk.scratch contents).move disk.scratch disk.name =
      disk.saved contents := by
    rw [move, put, OrderedMap.get?_insert_self, saved]
    refine congrArg (Disk.mk disk.name) (OrderedMap.ext_get? fun key => ?_)
    by_cases file : key = disk.name
    · rw [file, OrderedMap.get?_insert_self, OrderedMap.get?_insert_self]
    · rw [OrderedMap.get?_insert_of_ne _ file, OrderedMap.get?_insert_of_ne _ file]
      by_cases scratch : key = disk.scratch
      · rw [scratch, OrderedMap.get?_erase_self, OrderedMap.get?_erase_self]
      · rw [OrderedMap.get?_erase_of_ne _ scratch, OrderedMap.get?_erase_of_ne _ scratch, put,
          OrderedMap.get?_insert_of_ne _ scratch, OrderedMap.get?_insert_of_ne _ scratch]
  exact congrArg (Prod.mk _) written

/-- What a save that fails leaves in the scratch file, which held `before`. -/
def remains (contents : Bytes) (failure : WriteFault) (before : Option Bytes) : Option Bytes :=
  match failure.call with
  | .makeDirectory => before
  | .createScratch => before
  | .writeScratch => some (contents.take failure.written)
  | .syncScratch => some contents
  | .replaceFile => some contents

/-- **A save that fails** says why, and it changes no file but the scratch file. -/
theorem save_some (disk : Disk) (contents : Bytes) (failure : WriteFault) :
    (disk.save contents (some failure)).1 = .error failure.fault ∧
      (disk.save contents (some failure)).2.name = disk.name ∧
      (∀ name, name ≠ disk.scratch →
        (disk.save contents (some failure)).2.files.get? name = disk.files.get? name) ∧
      (disk.save contents (some failure)).2.files.get? disk.scratch =
        remains contents failure (disk.files.get? disk.scratch) := by
  obtain ⟨call, written, fault⟩ := failure
  have other : ∀ name, name ≠ disk.scratch → ∀ c, (disk.put disk.scratch c).files.get? name =
      disk.files.get? name := fun name h c => OrderedMap.get?_insert_of_ne _ h c
  cases call with
  | makeDirectory => exact ⟨rfl, rfl, fun _ _ => rfl, rfl⟩
  | createScratch => exact ⟨rfl, rfl, fun _ _ => rfl, rfl⟩
  | writeScratch =>
    refine ⟨rfl, rfl, fun name h => ?_, OrderedMap.get?_insert_self ..⟩
    exact (OrderedMap.get?_insert_of_ne _ h _).trans (other name h _)
  | syncScratch =>
    refine ⟨rfl, rfl, fun name h => ?_, OrderedMap.get?_insert_self ..⟩
    exact (OrderedMap.get?_insert_of_ne _ h _).trans (other name h _)
  | replaceFile =>
    refine ⟨rfl, rfl, fun name h => ?_, OrderedMap.get?_insert_self ..⟩
    exact (OrderedMap.get?_insert_of_ne _ h _).trans (other name h _)

/-- The file after a save that fails. -/
theorem file_save_some (disk : Disk) (contents : Bytes) (failure : WriteFault) :
    (disk.save contents (some failure)).2.file =
      if disk.Apart then disk.file else remains contents failure disk.file := by
  obtain ⟨-, name, others, scratch⟩ := disk.save_some contents failure
  rw [file, name]
  split
  · next apart => exact others disk.name fun same => apart same.symm
  · next same =>
    have same : disk.scratch = disk.name := Decidable.not_not.1 same
    rw [same] at scratch
    exact scratch

/-- A file that is its own scratch file has been emptied when the writing fails. -/
example : ((holding "ledger.tmp" (some [7])).save [8, 9]
    (some ⟨.writeScratch, 0, .unavailable "disk full"⟩)).2.file = some [] := by decide

end Disk

end PublicFunds
