import Mathlib.Control.Monad.Basic
import PublicFunds.Node.Basic
import PublicFunds.Proofs.Ledger.Career
import PublicFunds.Proofs.Ledger.Emptiness

/-!
# Starting a node, and starting it again

A node starts as a whole or not at all, and to start it again changes nothing: neither the same
node nor one whose ledger has been closed and opened in between, with the same genesis file.  Three
things might get in the way.

* The node takes the ledger to be empty because of its export, but each book looks for itself.  If
  they disagreed then the document could be loaded in part.  They do not (`Ledger.isEmpty_iff`).
* The totals are checked after the document has been loaded, when it is too late to leave the stores
  as they were.  But then they are right (`Ledger.Orderly.verify`).
* A document may be empty, and then the ledger is as unused as before and the next start loads the
  document once more.  That writes zeros where zeros stand (`Ledger.Loaded.load_again`).

No write may fail while the node starts.  Questions may, and some starts fail because of them.

* `Ledger.Loaded`: what loading a document leaves behind, whether it is empty or not.
* `Node.Starts`, `Node.Rests`, `Node.Settled`: what a start makes of a node, and why the next one
  makes nothing of it.
* `Node.settled_career`: starting, and starting again, after any career of the ledger.
-/

namespace PublicFunds

namespace Ledger

variable {ledger : Ledger} {g : Genesis}

/-! ## Loading a document again -/

/-- A document has been loaded into a ledger, and what was written then is what there is. -/
structure Loaded (ledger : Ledger) (g : Genesis) : Prop where
  wellFormed : g.WellFormed ledger.policy.addresses
  tidy : ∀ b, (ledger.store b).Tidy
  count : ∀ b : Book, (ledger.store b).entries.get? [b.register.counter] =
    some (Layout.count (b.countOf (g.extract b)))

/-- The faults of a store are what they were before a document was loaded. -/
theorem faults_load (ledger : Ledger) (g : Genesis) (b : Book) :
    ((ledger.load g).2.store b).faults = (ledger.store b).faults := by
  rcases ledger.store_load g b with same | changed
  · rw [same]
  · rw [changed, Store.faults_carryOut]

theorem policy_load (ledger : Ledger) (g : Genesis) : (ledger.load g).2.policy = ledger.policy := by
  rw [← step_load_snd]
  exact ledger.policy_history [.step (.load g)]

theorem Legible.load (h : ledger.Legible) (g : Genesis) : (ledger.load g).2.Legible :=
  fun b => (h b).of_faults (ledger.faults_load g b)

theorem Writable.load (h : ledger.Writable) (g : Genesis) : (ledger.load g).2.Writable :=
  fun b => (congrArg Store.Faults.write (ledger.faults_load g b)).trans (h b)

/-- Loading a document leaves it loaded. -/
theorem loaded_of_load (writable : ledger.Writable) (done : (ledger.load g).1 = .ok ()) :
    (ledger.load g).2.Loaded g := by
  have loaded : ledger.load g = (.ok (), (ledger.load g).2) := Prod.ext done rfl
  have fine := ((isUnused_of_load loaded).load_isOk_iff writable).1 done
  refine ⟨(ledger.policy_load g).symm ▸ fine, fun b => ?_, fun b => ?_⟩
  · obtain ⟨batch, planned, -, there⟩ := store_load_of_ok loaded b
    obtain ⟨-, front, back, rfl, -, -⟩ := Book.exists_of_load planned
    rw [there, planned]
    exact (writable b).tidy_carryOut () (by simp [Register.setLast])
  · obtain ⟨batch, planned, written⟩ := entries_load_of_ok loaded b
    obtain ⟨-, front, back, rfl, later, -⟩ := Book.exists_of_load planned
    rw [written]
    exact Book.get?_counter_apply b.register _ front later _

/-- Sections that leave the ledger as it is. -/
theorem loadBooks_of_same {books : List Book}
    (same : ∀ b ∈ books, ledger.loadBook g b = (.ok (), ledger)) :
    ledger.loadBooks g books = (.ok (), ledger) := by
  induction books with
  | nil => rfl
  | cons b rest ih =>
    have here := same b (List.mem_cons_self ..)
    rw [loadBooks_cons_of_ok (by rw [here]), here]
    exact ih fun c hc => same c (List.mem_cons_of_mem _ hc)

/-- **Loading a document a second time changes nothing**, if it left the ledger unused. -/
theorem Loaded.load_again (h : ledger.Loaded g) (writable : ledger.Writable)
    (unused : ledger.IsUnused) : ledger.load g = (.ok (), ledger) := by
  rw [load_of_ok ((IsUnused.rehearsal_iff ledger.policy).2 h.wellFormed)]
  refine loadBooks_of_same fun b _ => ?_
  obtain ⟨batch, planned⟩ := (unused.loadPlan_isOk_iff b).2 (h.wellFormed b)
  -- the last id that stands in an unused book is zero, so there is nothing in the section
  have zero : b.countOf (g.extract b) = 0 := by
    have counted := Book.countOf_counter (unused b) (h.count b)
    rw [Layout.countOf_count] at counted
    exact Except.ok.inj counted
  have same : (ledger.store b).entries.apply batch = (ledger.store b).entries := by
    by_contra changed
    rcases (Book.apply_ne_iff planned).1 changed with shows | shows
    · exact shows zero
    · exact shows (zero ▸ h.count b)
  have done := (h.tidy b).carryOut (writable b) () same
  unfold loadPlan at planned
  refine Prod.ext ?_ ?_
  · rw [loadBook_fst, planned, done]
    rfl
  · rw [loadBook_snd, planned, done, withStore_store]

/-- The totals of a ledger in order are found to be right. -/
theorem Orderly.verify (h : ledger.Orderly) (within : ledger.Within (Bytes.reach 8))
    (legible : ledger.Legible) : ledger.verify = .ok () := by
  obtain ⟨c, t, keeps, -⟩ := h .disbursements
  have healthy := (ledger.store .disbursements).healthy_mended
  have mended : Disbursement.Keeps ledger.policy.addresses
    (ledger.store .disbursements).mended.entries c t := keeps
  have checked := Disbursement.verify_congr (t := (ledger.store .disbursements).mended)
    (legible .disbursements) (Book.legible_of_healthy healthy) rfl
  rw [mended.verify (within .disbursements) healthy] at checked
  rw [Ledger.verify]
  exact congrArg (Except.mapError (LedgerError.book .disbursements)) checked

end Ledger

namespace Node

/-- What a start that succeeds makes of a node. -/
inductive Starts (files : Files) (node : Node) : Node → Prop where
  /-- Nothing, if there is no genesis file or the ledger has been used. -/
  | kept (why : node.config.genesisFile = none ∨ node.ledger.IsUsed) : Starts files node node
  /-- The ledger holds the whole document that is in the genesis file. -/
  | loaded {path : String} {contents : Bytes} {g : Genesis}
      (named : node.config.genesisFile = some path) (read : files.read? path = some contents)
      (document : Genesis.read contents = some g) (unused : node.ledger.IsUnused)
      (done : (node.ledger.load g).1 = .ok ())
      (exported : (node.ledger.load g).2.extract = .ok g.arranged) :
      Starts files node { node with ledger := (node.ledger.load g).2 }

/-- Starting a node succeeds and changes nothing. -/
def Settled (files : Files) (node : Node) : Prop := node.start files = (.ok (), node)

/-- Why a start leaves the ledger of a node as it is. -/
inductive Rests (files : Files) (config : Configuration) (ledger : Ledger) : Prop where
  | unnamed (named : config.genesisFile = none)
  | used (answer : ledger.isEmpty = .ok false)
  /-- The genesis file has been loaded, and maybe it is empty. -/
  | loaded {path : String} {contents : Bytes} {g : Genesis} {v : Bool}
      (named : config.genesisFile = some path) (read : files.read? path = some contents)
      (document : Genesis.read contents = some g) (answer : ledger.isEmpty = .ok v)
      (loaded : ledger.Loaded g)

variable {files : Files} {node : Node} {config : Configuration} {ledger again : Ledger}

/-- A node at rest does nothing about its genesis file, or nothing that shows. -/
theorem Rests.loadGenesis (h : Rests files config ledger) (writable : ledger.Writable) :
    (Node.mk config ledger).loadGenesis files = (.ok (), ⟨config, ledger⟩) := by
  unfold Node.loadGenesis
  cases named : config.genesisFile with
  | none => rfl
  | some path =>
    cases h with
    | unnamed none =>
      rw [named] at none
      cases none
    | used answer => simp only [answer]
    | @loaded path' contents g v named' read document answer loaded =>
      rw [named] at named'
      cases named'
      simp only [answer]
      cases v with
      | false => rfl
      | true =>
        have unused := (Ledger.isEmpty_iff answer).1 rfl
        simp only [loadFile, read, document, loaded.load_again writable unused]

theorem Rests.settled (h : Rests files config ledger) (writable : ledger.Writable)
    (verified : ledger.verify = .ok ()) : Settled files ⟨config, ledger⟩ := by
  rw [Settled, start, h.loadGenesis writable]
  simp only [verified]
  rfl

/-- What made a ledger rest does so after it has been opened again. -/
theorem Rests.reopened (h : Rests files config ledger) (healthy : again.Healthy)
    (policy : again.policy = ledger.policy)
    (entries : ∀ b, (again.store b).entries = (ledger.store b).entries)
    (tidy : (∀ b, (ledger.store b).Tidy) → ∀ b, (again.store b).Tidy) :
    Rests files config again := by
  have answers {v : Bool} (answer : ledger.isEmpty = .ok v) : again.isEmpty = .ok v :=
    (Ledger.isEmpty_congr healthy.legible (Ledger.legible_of_isEmpty answer) entries).trans answer
  cases h with
  | unnamed named => exact .unnamed named
  | used answer => exact .used (answers answer)
  | loaded named read document answer loaded =>
    refine .loaded named read document (answers answer)
      ⟨policy ▸ loaded.wellFormed, tidy loaded.tidy, fun b => ?_⟩
    rw [entries b]
    exact loaded.count b

/-- A node at rest is settled after its ledger has been opened again. -/
theorem Rests.exists_reopen (h : Rests files config ledger) (orderly : ledger.Orderly)
    (saved : ledger.Saved) (within : ledger.Within (Bytes.reach 4))
    (persistent : ledger.IsPersistent) :
    ∃ again, ledger.reopen = .ok again ∧
      (∀ b, (again.store b).entries = (ledger.store b).entries) ∧
      Settled files ⟨config, again⟩ := by
  obtain ⟨again, opens, policy, -, healthy, -, back⟩ := saved.exists_reopen within
  obtain ⟨entries, tidy⟩ := back persistent
  have orderly' : again.Orderly := fun b => by
    rw [entries b, policy]
    exact orderly b
  have within' : again.Within (Bytes.reach 8) := fun b => by
    rw [entries b]
    exact (within b).mono (by decide)
  exact ⟨again, opens, entries, (h.reopened healthy policy entries tidy).settled healthy.writable
    (orderly'.verify within' healthy.legible)⟩

theorem start_snd (node : Node) (files : Files) :
    (node.start files).2 = (node.loadGenesis files).2 := by
  unfold start
  rcases node.loadGenesis files with ⟨_ | _, after⟩ <;> rfl

/-- A document that is in the genesis file and well formed is loaded into an unused ledger. -/
theorem loadGenesis_of_wellFormed (writable : node.ledger.Writable) {path : String}
    {contents : Bytes} {g : Genesis} (named : node.config.genesisFile = some path)
    (read : files.read? path = some contents) (document : Genesis.read contents = some g)
    (answer : node.ledger.isEmpty = .ok true) (fine : g.WellFormed node.ledger.policy.addresses) :
    (node.ledger.load g).1 = .ok () ∧
      node.loadGenesis files = (.ok (), { node with ledger := (node.ledger.load g).2 }) := by
  have done := ((Ledger.isEmpty_iff answer).1 rfl).load_of_wellFormed writable fine
  have loaded : node.ledger.load g = (.ok (), (node.ledger.load g).2) := Prod.ext done rfl
  refine ⟨done, ?_⟩
  simp only [loadGenesis, named, answer, loadFile, read, document]
  rw [loaded]

/-- **The three ways in which the genesis file is dealt with.**  It cannot be loaded, there is
nothing to do, or it holds a document that will be loaded. -/
theorem loadGenesis_cases (node : Node) (files : Files) :
    (∃ e, node.loadGenesis files = (.error e, node)) ∨
      (node.loadGenesis files = (.ok (), node) ∧ Rests files node.config node.ledger ∧
        (node.config.genesisFile = none ∨ node.ledger.IsUsed)) ∨
      ∃ path contents g, node.config.genesisFile = some path ∧
        files.read? path = some contents ∧ Genesis.read contents = some g ∧
        node.ledger.isEmpty = .ok true ∧ g.WellFormed node.ledger.policy.addresses := by
  cases named : node.config.genesisFile with
  | none => exact .inr (.inl ⟨by rw [loadGenesis, named], .unnamed named, .inl rfl⟩)
  | some path =>
    cases answer : node.ledger.isEmpty with
    | error e => exact .inl ⟨.exporting e, by simp only [loadGenesis, named, answer]⟩
    | ok v =>
      cases v with
      | false =>
        exact .inr (.inl ⟨by simp only [loadGenesis, named, answer], .used answer,
          .inr ((Ledger.isUsed_iff answer).2 rfl)⟩)
      | true =>
        have file : node.loadGenesis files = node.loadFile files path := by
          simp only [loadGenesis, named, answer]
        cases read : files.read? path with
        | none => exact .inl ⟨.fileUnavailable path, by simp only [file, loadFile, read]⟩
        | some contents =>
          cases document : Genesis.read contents with
          | none => exact .inl ⟨.badDocument path, by simp only [file, loadFile, read, document]⟩
          | some g =>
            by_cases fine : g.WellFormed node.ledger.policy.addresses
            · exact .inr (.inr ⟨path, contents, g, rfl, read, document, rfl, fine⟩)
            · obtain ⟨e, refused⟩ := Ledger.IsUnused.load_of_not_wellFormed fine
              exact .inl ⟨.loading path e, by simp only [file, loadFile, read, document, refused]⟩

section Start

variable (orderly : node.ledger.Orderly) (writable : node.ledger.Writable)
  (within : node.ledger.Within (Bytes.reach 8))

include orderly writable within

/-- What a start leaves that has loaded the genesis file. -/
theorem start_of_wellFormed {path : String} {contents : Bytes} {g : Genesis}
    (named : node.config.genesisFile = some path)
    (read : files.read? path = some contents) (document : Genesis.read contents = some g)
    (answer : node.ledger.isEmpty = .ok true) (fine : g.WellFormed node.ledger.policy.addresses)
    (later : (node.start files).2.ledger.Within (Bytes.reach 8)) :
    node.start files = (.ok (), { node with ledger := (node.ledger.load g).2 }) ∧
      Starts files node { node with ledger := (node.ledger.load g).2 } ∧
      Rests files node.config (node.ledger.load g).2 ∧ (node.ledger.load g).2.verify = .ok () := by
  obtain ⟨done, loads⟩ := loadGenesis_of_wellFormed writable named read document answer fine
  rw [start_snd, loads] at later
  have legible := (Ledger.legible_of_isEmpty answer).load g
  have loaded : node.ledger.load g = (.ok (), (node.ledger.load g).2) := Prod.ext done rfl
  have exported := Ledger.extract_of_load loaded orderly later legible
  have verified := (orderly.load within g).verify later legible
  have unused := (Ledger.isEmpty_iff answer).1 rfl
  have answer' : (node.ledger.load g).2.isEmpty = .ok g.arranged.isEmpty := by
    rw [Ledger.isEmpty, exported]
    rfl
  refine ⟨?_, .loaded named read document unused done exported,
    .loaded named read document answer' (Ledger.loaded_of_load writable done), verified⟩
  rw [start, loads]
  simp only [verified]
  rfl

/-- **What a start comes to.**  It fails and leaves the node as it was, or it succeeds and leaves a
node at rest. -/
theorem start_cases (later : (node.start files).2.ledger.Within (Bytes.reach 8)) :
    (∃ e, node.start files = (.error e, node)) ∨
      ∃ after, node.start files = (.ok (), after) ∧ Starts files node after ∧
        Rests files after.config after.ledger ∧ after.ledger.verify = .ok () := by
  rcases node.loadGenesis_cases files with ⟨e, failed⟩ | ⟨kept, rests, why⟩ |
    ⟨path, contents, g, named, read, document, answer, fine⟩
  · exact .inl ⟨e, by rw [start, failed]⟩
  · cases verified : node.ledger.verify with
    | error e =>
      refine .inl ⟨.verifying e, ?_⟩
      rw [start, kept]
      simp only [verified]
      rfl
    | ok u => exact .inr ⟨node, rests.settled writable verified, .kept why, rests, verified⟩
  · exact .inr ⟨_,
      start_of_wellFormed orderly writable within named read document answer fine later⟩

/-- **When a node starts**, if its records and its last ids can be read. -/
theorem start_isOk_iff (later : (node.start files).2.ledger.Within (Bytes.reach 8))
    (legible : node.ledger.Legible) :
    (node.start files).1 = .ok () ↔
      node.config.genesisFile = none ∨ node.ledger.IsUsed ∨
        ∃ path contents g, node.config.genesisFile = some path ∧
          files.read? path = some contents ∧ Genesis.read contents = some g ∧
          g.WellFormed node.ledger.policy.addresses := by
  have verified := orderly.verify within legible
  have settled (rests : Rests files node.config node.ledger) : (node.start files).1 = .ok () :=
    congrArg Prod.fst (rests.settled writable verified)
  obtain ⟨v, answer⟩ := orderly.exists_isEmpty within legible
  constructor
  · intro started
    rcases start_cases orderly writable within later with
      ⟨e, failed⟩ | ⟨after, -, ⟨unnamed | used⟩ | ⟨named, read, document, unused, done, -⟩, -, -⟩
    · rw [failed] at started
      cases started
    · exact .inl unnamed
    · exact .inr (.inl used)
    · exact .inr (.inr ⟨_, _, _, named, read, document, (unused.load_isOk_iff writable).1 done⟩)
  · rintro (unnamed | used | ⟨path, contents, g, named, read, document, fine⟩)
    · exact settled (.unnamed unnamed)
    · exact settled (.used (((Ledger.isUsed_iff answer).1 used) ▸ answer))
    · cases v with
      | false => exact settled (.used answer)
      | true =>
        rw [(start_of_wellFormed orderly writable within named read document answer fine later).1]

end Start

/-- A start keeps the configuration of a node, and it loads a document into its ledger at most. -/
theorem Starts.ledger_cases {after : Node} (h : Starts files node after) :
    after.config = node.config ∧
      (after.ledger = node.ledger ∨ ∃ g, after.ledger = (node.ledger.load g).2) := by
  cases h with
  | kept why => exact ⟨rfl, .inl rfl⟩
  | loaded named read document unused done exported => exact ⟨rfl, .inr ⟨_, rfl⟩⟩

/-- **A node starts as a whole or not at all, and to start it again changes nothing.**  Its ledger
started unused and had any career, in which nothing got too long for the files.

* If the start fails then the node is what it was, with all its stores.
* If it succeeds then it has changed nothing, because there is no genesis file or the ledger has
  been used, or the ledger holds the whole document.  The next start succeeds and changes nothing.
  If every store has a file then the ledger can be opened again, and a start changes nothing there.
* If what an export asks meets no fault then it succeeds except when the ledger is unused and there
  is no well-formed document in the genesis file. -/
theorem settled_career {files : Files} {start : Ledger} (blank : start.Blank)
    (saved : start.Saved) {episodes : List Ledger.Episode}
    (within : ∀ front, front <+: episodes → (start.career front).Within (Bytes.reach 4))
    {node : Node} (reached : node.ledger = start.career episodes)
    (writable : node.ledger.Writable)
    (later : (node.start files).2.ledger.Within (Bytes.reach 4)) :
    (∀ e, (node.start files).1 = .error e → (node.start files).2 = node) ∧
      ((node.start files).1 = .ok () →
        Starts files node (node.start files).2 ∧ Settled files (node.start files).2 ∧
          ((node.start files).2.ledger.IsPersistent →
            ∃ again, (node.start files).2.ledger.reopen = .ok again ∧
              (∀ b, (again.store b).entries = ((node.start files).2.ledger.store b).entries) ∧
              Settled files ⟨node.config, again⟩)) ∧
      (node.ledger.Legible →
        ((node.start files).1 = .ok () ↔
          node.config.genesisFile = none ∨ node.ledger.IsUsed ∨
            ∃ path contents g, node.config.genesisFile = some path ∧
              files.read? path = some contents ∧ Genesis.read contents = some g ∧
              g.WellFormed node.ledger.policy.addresses)) := by
  obtain ⟨orderly, saved⟩ := blank.orderly_career saved within
  have short := within episodes List.prefix_rfl
  rw [← reached] at orderly saved short
  have short' : node.ledger.Within (Bytes.reach 8) := fun b => (short b).mono (by decide)
  have later' : (node.start files).2.ledger.Within (Bytes.reach 8) :=
    fun b => (later b).mono (by decide)
  refine ⟨fun e failed => ?_, fun done => ?_, start_isOk_iff orderly writable short' later'⟩
  · rcases start_cases orderly writable short' later' with ⟨_, unchanged⟩ | ⟨after, started, -⟩
    · rw [unchanged]
    · rw [started] at failed
      cases failed
  · rcases start_cases orderly writable short' later' with
      ⟨e, failed⟩ | ⟨after, started, starts, rests, verified⟩
    · rw [failed] at done
      cases done
    · rw [started] at later ⊢
      obtain ⟨same, ledger⟩ := starts.ledger_cases
      have kept : after.ledger.Orderly ∧ after.ledger.Saved ∧ after.ledger.Writable := by
        rcases ledger with unchanged | ⟨g, loaded⟩
        · rw [unchanged]
          exact ⟨orderly, saved, writable⟩
        · rw [loaded]
          exact ⟨orderly.load short' g, saved.load g, writable.load g⟩
      obtain ⟨orderly', saved', writable'⟩ := kept
      refine ⟨starts, rests.settled writable' verified, fun persistent => ?_⟩
      rw [← same]
      exact rests.exists_reopen orderly' saved' later persistent

/-- A genesis file with an empty document, which is a pair of braces. -/
def bracesFile : Files := ⟨[], .ofList [(["genesis"], [123, 125])]⟩

/-- A procurement is refused, since there is no budget, and the ledger is opened again. -/
def refusedRoads : List Ledger.Episode := [
  .event (.step (.operate (.enterProcurement
    (.planned 1 "A1" "works" "roads" (Ledger.units 10) "EUR" "xaa")))),
  .reopening]

/-- A node on files that is about to start. -/
def bracesNode : Node where
  config := { Configuration.standard with genesisFile := some "/genesis" }
  ledger := (Ledger.onNoFiles Ledger.oneOfficer).career refusedRoads

/-- The empty document is loaded, and so it is by the next start, which finds the ledger empty. -/
theorem settled_bracesNode :
    (bracesNode.start bracesFile).1 = .ok () ∧
      (bracesNode.start bracesFile).2.ledger.isEmpty = .ok true ∧
      ((bracesNode.start bracesFile).2.ledger.store .budgets).entries ≠
        (bracesNode.ledger.store .budgets).entries ∧
      Settled bracesFile (bracesNode.start bracesFile).2 ∧
      ∃ again, (bracesNode.start bracesFile).2.ledger.reopen = .ok again ∧
        Settled bracesFile ⟨bracesNode.config, again⟩ := by
  have short : ∀ front ∈ refusedRoads.inits,
      ((Ledger.onNoFiles Ledger.oneOfficer).career front).Within (Bytes.reach 4) := by
    decide +kernel
  have writable : ∀ b ∈ Book.all, (bracesNode.ledger.store b).faults.write = none := by
    decide +kernel
  have later : (bracesNode.start bracesFile).2.ledger.Within (Bytes.reach 4) := by decide +kernel
  have onFiles : ∀ b ∈ Book.all,
      ((bracesNode.start bracesFile).2.ledger.store b).isPersistent = true := by decide +kernel
  have done : (bracesNode.start bracesFile).1 = .ok () := by decide +kernel
  obtain ⟨-, starts, -⟩ := @settled_career bracesFile (Ledger.onNoFiles Ledger.oneOfficer)
    (fun b => by cases b <;> rfl) (fun b => by cases b <;> exact Store.Saved.onNoFile _) refusedRoads
    (fun front happens => short front ((List.mem_inits _ _).2 happens)) bracesNode rfl
    (fun b => writable b b.mem_all) later
  obtain ⟨-, settled, reopened⟩ := starts done
  obtain ⟨again, opens, -, settled'⟩ := reopened fun b => onFiles b b.mem_all
  exact ⟨done, by decide +kernel, by decide +kernel, settled, again, opens, settled'⟩

end Node

end PublicFunds
