import PublicFunds.Node.Run

/-!
# The node as a program

Reads the configuration from the environment, opens the ledger, starts the node and stops it again.
What is decided is decided elsewhere; here files are read and written.
-/

namespace PublicFunds

namespace Program

/-- The name of the store file of a book. -/
def storePath (directory : String) (b : Book) : String := directory ++ "/" ++ b.fileName

/-- A file that may be missing. -/
def readStore (path : String) : IO (Except StoreFault (Option Bytes)) := do
  try
    return .ok (some (← IO.FS.readBinFile path).toList)
  catch
    | .noFileOrDirectory .. => return .ok none
    | e => return .error (.unavailable (toString e))

/-- The contents of a file, if it can be read. -/
def readFile? (path : String) : IO (Option Bytes) := do
  try
    return some (← IO.FS.readBinFile path).toList
  catch _ => return none

/-- The name of the scratch file beside it. -/
def scratchPath (directory : String) (b : Book) : String :=
  directory ++ "/" ++ FileName.scratch b.fileName

/-- Puts a store file in the place of the one that is there. -/
def saveStore (directory : String) (b : Book) (contents : Bytes) : IO Unit := do
  IO.FS.createDirAll directory
  IO.FS.writeBinFile (scratchPath directory b) ⟨contents.toArray⟩
  IO.FS.rename (scratchPath directory b) (storePath directory b)

/-- The files that a node is configured with.  That the directories on the way to them are missing
is only noticed when the files are written. -/
def readFiles (config : Configuration) : IO Files := do
  let paths := config.genesisFile.toList ++ config.exportFile.toList
  let files : Files :=
    ⟨paths.flatMap fun path => Files.passed [] (Files.steps path.toList).dropLast, .empty⟩
  match config.genesisFile with
  | none => return files
  | some path =>
    match ← readFile? path with
    | none => return files
    | some contents => return (files.write? path contents).getD files

/-- Writes what a node has left. -/
def save (config : Configuration) (before after : Home) : IO Unit := do
  if let some directory := config.dataDirectory then
    for b in Book.all do
      if after.stores b ≠ before.stores b then
        saveStore directory b ((after.stores b).getD [])
  if let some path := config.exportFile then
    if let some contents := after.files.read? path then
      IO.FS.writeBinFile path ⟨contents.toArray⟩

/-- Starts and stops a node. -/
def run (config : Configuration) : IO (Except String Unit) := do
  let mut stores : List (Book × Bytes) := []
  if let some directory := config.dataDirectory then
    for b in Book.all do
      match ← readStore (storePath directory b) with
      | .error fault => return .error (NodeError.opening (.storage fault)).message
      | .ok none => pure ()
      | .ok (some contents) => stores := (b, contents) :: stores
  let found := stores
  let home : Home := ⟨← readFiles config, fun b => found.lookup b⟩
  match home.boot config with
  | (.error e, after) =>
    save config home after
    return .error e.message
  | (.ok node, started) =>
    let (stopped, after) := started.shutDown node
    save config home after
    return stopped.mapError NodeError.message

end Program

end PublicFunds

/-- Runs a node that is configured by the environment. -/
def main : IO UInt32 := do
  let mut values : List (String × String) := []
  for name in PublicFunds.Configuration.variableNames do
    if let some value ← IO.getEnv name then
      values := (name, value) :: values
  let found := values
  let outcome ←
    match PublicFunds.Configuration.read fun name => found.lookup name with
    | .error e => pure (.error ("Failed to load configuration: " ++ e.message))
    | .ok config =>
      try PublicFunds.Program.run config
      catch e => pure (.error (toString e))
  match outcome with
  | .error message =>
    IO.eprintln ("Error: " ++ message)
    return 1
  | .ok () => return 0
