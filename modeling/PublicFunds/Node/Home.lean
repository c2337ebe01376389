import PublicFunds.Node.Run

/-!
# Trying a ledger out

No node does any of this, and nothing that a node does rests on it.  To try a ledger out, one sets
its files up by hand, changes them while nobody looks, and compares it with a copy of itself.

* `Store.load`, `Store.withFile`, `Store.editFile`: the file of a store, set up or changed.
* `Store.force`: a change of a store that cannot fail.
* `Ledger.copy`, `Ledger.equalsCopy`: a ledger and its copy.
* `Home.within`, `Home.edit`: files between two runs of a node.
-/

namespace PublicFunds

namespace Store

/-- A store on a file that is by itself in its directory. -/
def load (file : Option Bytes) : Except StoreFault Store :=
  openOn (.holding (FileName.ofStore "store") file)

/-- The store when something else has put contents into its file. -/
def withFile (store : Store) (contents : Bytes) : Store :=
  match store.medium with
  | .memory => store
  | .file disk => { store with medium := .file (disk.put disk.name contents) }

/-- A store file that nobody has opened, after an edit. -/
def editFile (file : Option Bytes) (e : Edit) : Except StoreFault Bytes :=
  match file with
  | none => .ok (Image.encode (Entries.apply .empty [e]))
  | some contents =>
    match Image.decode contents with
    | .error fault => .error fault
    | .ok entries => .ok (Image.encode (entries.apply [e]))

/-- Applies edits behind the back of every fault. -/
def force (store : Store) (batch : Batch) : Store :=
  ({ store with faults := .none }.write batch).2 |> fun s => { s with faults := store.faults }

end Store

namespace Ledger

/-- The ledger when something else has put contents into the store file of a book. -/
def withFile (ledger : Ledger) (b : Book) (contents : Bytes) : Ledger :=
  ledger.withStore b ((ledger.store b).withFile contents)

/-- A ledger in memory that has been loaded with everything that this one holds. -/
def copy (ledger : Ledger) : Except LedgerError Ledger :=
  match ledger.extract with
  | .error e => .error e
  | .ok g =>
    match (inMemory ledger.policy).load g with
    | (.error e, _) => .error e
    | (.ok (), loaded) => .ok loaded

/-- Whether a copy of a ledger, whose totals have to be right, holds the same. -/
def equalsCopy (ledger : Ledger) : Except LedgerError Bool :=
  match ledger.copy with
  | .error e => .error e
  | .ok loaded =>
    match loaded.verify, ledger.extract, loaded.extract with
    | .error e, _, _ => .error e
    | _, .error e, _ => .error e
    | _, _, .error e => .error e
    | .ok (), .ok g, .ok h => .ok (g = h)

end Ledger

namespace Home

/-- A directory with nothing in it. -/
def within (directory : String) : Home :=
  ⟨⟨Files.passed [] (Files.steps directory.toList), .empty⟩, fun _ => none⟩

/-- The home with another store file. -/
def withStore (home : Home) (b : Book) (file : Option Bytes) : Home :=
  { home with stores := fun c => if c = b then file else home.stores c }

/-- The home with another file. -/
def write? (home : Home) (path : String) (contents : Bytes) : Option Home :=
  (home.files.write? path contents).map fun files => { home with files }

/-- Edits a store file. -/
def edit (home : Home) (b : Book) (e : Edit) : Except StoreFault Home :=
  (Store.editFile (home.stores b) e).map fun file => home.withStore b (some file)

end Home

end PublicFunds
