import PublicFunds.Store.Basic

/-!
# Which files are safe

A save that fails leaves the file alone unless the file is its own scratch file.  Whether it is can
be told from its name: it has the extension `tmp`, and something in front of it.  The file of a
store of a node has another extension, so it is safe, whatever the store is called.

* `FileName.scratch_eq_self_iff`, `Disk.apart_iff`: the names that are in danger.
* `FileName.scratch_ofStore`, `Disk.apart_holding`: those of the stores of a node are not.
* `Disk.name_save`: a save does not change which file it is.
-/

namespace PublicFunds

namespace FileName

theorem beforeLastDot?_eq_none {name : List Char} (h : '.' ∉ name) : beforeLastDot? name = none := by
  induction name with
  | nil => rfl
  | cons c rest ih =>
    rw [List.mem_cons, not_or] at h
    rw [beforeLastDot?, ih h.2]
    exact if_neg fun dot => h.1 dot.symm

theorem beforeLastDot?_append (before : List Char) {extension : List Char} (h : '.' ∉ extension) :
    beforeLastDot? (before ++ '.' :: extension) = some before := by
  induction before with
  | nil =>
    rw [List.nil_append, beforeLastDot?, beforeLastDot?_eq_none h]
    rfl
  | cons c before ih => rw [List.cons_append, beforeLastDot?, ih]

/-- The stem of a name with an extension. -/
theorem stem_append {before extension : List Char} (front : before ≠ []) (h : '.' ∉ extension) :
    stem (before ++ '.' :: extension) = before := by
  rw [stem, beforeLastDot?_append before h]
  cases before with
  | nil => exact absurd rfl front
  | cons c before => rfl

/-- Only the empty name has an empty stem. -/
theorem eq_nil_of_stem_eq_nil {name : List Char} (h : stem name = []) : name = [] := by
  unfold stem at h
  split at h
  · cases h
  · exact h

/-- **A file is its own scratch file** exactly if it is called so: its name ends in `.tmp`, and
that is not all of it. -/
theorem scratch_eq_self_iff {name : String} :
    scratch name = name ↔ ∃ front, front ≠ [] ∧ name.toList = front ++ scratchExtension := by
  constructor
  · intro same
    have spelled : stem name.toList ++ scratchExtension = name.toList := by
      rw [← String.toList_ofList (l := stem name.toList ++ scratchExtension)]
      exact congrArg String.toList same
    refine ⟨stem name.toList, fun empty => ?_, spelled.symm⟩
    rw [empty, eq_nil_of_stem_eq_nil empty] at spelled
    cases spelled
  · rintro ⟨front, some, spelled⟩
    have stemmed : stem (front ++ scratchExtension) = front := stem_append some (by decide)
    rw [scratch, spelled, stemmed, ← spelled, String.ofList_toList]

/-- The file of a store of a node is not its own scratch file. -/
theorem scratch_ofStore (store : String) : scratch (ofStore store) ≠ ofStore store := by
  intro same
  obtain ⟨front, -, spelled⟩ := scratch_eq_self_iff.1 same
  -- one ends in a `b` and the other in a `p`
  have last := congrArg List.getLast? spelled
  rw [ofStore, String.toList_append] at last
  simp [scratchExtension] at last

end FileName

namespace Disk

/-- The file of a store of a node is safe. -/
theorem apart_holding (store : String) (file : Option Bytes) :
    (holding (FileName.ofStore store) file).Apart := by
  cases file <;> exact FileName.scratch_ofStore store

/-- **The files that are in danger**: a save that fails can only spoil a file that is called like a
scratch file. -/
theorem apart_iff {disk : Disk} :
    disk.Apart ↔
      ¬∃ front, front ≠ [] ∧ disk.name.toList = front ++ FileName.scratchExtension :=
  not_congr FileName.scratch_eq_self_iff

/-- A save does not change which file it is. -/
@[simp] theorem name_save (disk : Disk) (contents : Bytes) (failing : Option WriteFault) :
    (disk.save contents failing).2.name = disk.name := by
  cases failing with
  | none => rw [save_none, saved]
  | some failure => exact (disk.save_some contents failure).2.1

/-- Saving the same contents again changes nothing. -/
@[simp] theorem saved_saved (disk : Disk) (contents : Bytes) :
    (disk.saved contents).saved contents = disk.saved contents := by
  refine congrArg (Disk.mk disk.name) (OrderedMap.ext_get? fun key => ?_)
  change (((disk.saved contents).files.erase disk.scratch).insert disk.name contents).get? key =
    ((disk.files.erase disk.scratch).insert disk.name contents).get? key
  by_cases file : key = disk.name
  · rw [file, OrderedMap.get?_insert_self, OrderedMap.get?_insert_self]
  · rw [OrderedMap.get?_insert_of_ne _ file, OrderedMap.get?_insert_of_ne _ file]
    by_cases scratch : key = disk.scratch
    · rw [scratch, OrderedMap.get?_erase_self, OrderedMap.get?_erase_self]
    · rw [OrderedMap.get?_erase_of_ne _ scratch]
      exact OrderedMap.get?_insert_of_ne _ file _

end Disk

end PublicFunds
