import PublicFunds.OrderedMap
import PublicFunds.Text.Utf8

/-!
# Files

A node reads its genesis document from a file and writes its export to one.  It calls them by
paths: a path goes from the top, step by step, through directories to a file.  An empty step and a
dot stay where they are, and two dots go back up.  A file can be written where its directory exists
and its name is one that a file can have; it can be read once it has been written.

Two paths that lead to one place mean one file.

* `Files.locate?`: the place that a path leads to.
* `Files.read?`, `Files.write?`: reading and writing, which may fail.
-/

namespace PublicFunds

/-- A place in the tree of directories: the names on the way to it from the top. -/
abbrev Place := List String

/-- Directories, and the contents of the files in them. -/
structure Files where
  directories : List Place
  contents : OrderedMap Place Bytes

namespace Files

/-! ## Paths -/

/-- The steps of a path, which slashes divide. -/
def steps : List Char → List (List Char)
  | [] => [[]]
  | c :: rest =>
    if c = '/' then [] :: steps rest
    else
      match steps rest with
      | [] => [[c]]
      | step :: more => (c :: step) :: more

/-- Where a step leads. -/
def move (here : Place) (step : List Char) : Place :=
  if step = [] ∨ step = ['.'] then here
  else if step = ['.', '.'] then here.dropLast
  else here ++ [String.ofList step]

/-- The places that some steps pass. -/
def passed (here : Place) : List (List Char) → List Place
  | [] => []
  | step :: rest => move here step :: passed (move here step) rest

/-- Whether there is a directory at a place: the top is one, and so is all that leads to one. -/
def isDirectory (directories : List Place) (place : Place) : Bool :=
  place.isEmpty || directories.any place.isPrefixOf

/-- Where some steps lead that stay within directories. -/
def enter? (directories : List Place) (here : Place) : List (List Char) → Option Place
  | [] => some here
  | step :: rest =>
    if isDirectory directories (move here step) then enter? directories (move here step) rest
    else none

/-- The number of bytes that a name can have. -/
def nameLimit : Nat := 255

/-- The number of bytes that a path can have. -/
def pathLimit : Nat := 4095

/-- Whether a file can have a name. -/
def isName (name : List Char) : Bool :=
  name != [] && name != ['.'] && name != ['.', '.'] && (Utf8.encode name).length ≤ nameLimit

/-- Whether something can be a path. -/
def isPath (path : List Char) : Bool :=
  !path.contains '\x00' && (Utf8.encode path).length ≤ pathLimit

/-- The place of the file that a path leads to, whether there is one or not. -/
def locate? (directories : List Place) (path : String) : Option Place :=
  match (steps path.toList).getLast? with
  | none => none
  | some name =>
    if isPath path.toList && isName name then
      (enter? directories [] (steps path.toList).dropLast).map (· ++ [String.ofList name])
    else none

/-! ## Reading and writing -/

/-- The contents of a file. -/
def read? (files : Files) (path : String) : Option Bytes :=
  (locate? files.directories path).bind files.contents.get?

/-- The files after one has been written. -/
def write? (files : Files) (path : String) (contents : Bytes) : Option Files :=
  match locate? files.directories path with
  | none => none
  | some place =>
    if isDirectory files.directories place then none
    else some { files with contents := files.contents.insert place contents }

/-- What has been written is what is read. -/
theorem read?_of_write? {files after : Files} {path : String} {contents : Bytes}
    (h : files.write? path contents = some after) : after.read? path = some contents := by
  unfold write? at h
  split at h
  next => cases h
  next place hplace =>
    split at h
    · cases h
    · cases h
      simp [read?, hplace]

/-- Writing a file leaves those at other places alone. -/
theorem read?_of_write?_of_ne {files after : Files} {path other : String} {contents : Bytes}
    (h : files.write? path contents = some after)
    (hne : locate? files.directories other ≠ locate? files.directories path) :
    after.read? other = files.read? other := by
  unfold write? at h
  split at h
  next => cases h
  next place hplace =>
    split at h
    · cases h
    · cases h
      cases hother : locate? files.directories other with
      | none => simp [read?, hother]
      | some there =>
        have hthere : there ≠ place := by rwa [hother, hplace, ne_eq, Option.some.injEq] at hne
        simp [read?, hother, files.contents.get?_insert_of_ne hthere]

end Files

end PublicFunds
