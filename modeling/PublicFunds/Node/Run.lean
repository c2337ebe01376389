import PublicFunds.Node.Basic

/-!
# Running a node

A node finds its store files and its genesis document where the last one left them, and leaves them
and its export there for the next one.

* `Home.boot`, `Home.shutDown`: a node that starts at home, and one that stops there.
-/

namespace PublicFunds

/-- What is kept between the runs of a node. -/
structure Home where
  files : Files
  stores : Book → Option Bytes

namespace Home

/-- The home as a ledger leaves it.  What is in memory is lost. -/
def left (home : Home) (ledger : Ledger) : Home :=
  { home with stores := fun b =>
      if (ledger.store b).isPersistent then (ledger.store b).file? else home.stores b }

/-- Opens a node and starts it. -/
def boot (home : Home) (config : Configuration) : Except NodeError Node × Home :=
  match Node.create config fun b => .ok (home.stores b) with
  | .error e => (.error e, home)
  | .ok node =>
    match node.start home.files with
    | (.error e, node) => (.error e, home.left node.ledger)
    | (.ok (), node) => (.ok node, home.left node.ledger)

/-- Stops a node. -/
def shutDown (home : Home) (node : Node) : Except NodeError Unit × Home :=
  let home := home.left node.ledger
  match node.stop home.files with
  | .error e => (.error e, home)
  | .ok files => (.ok (), { home with files })

end Home

end PublicFunds
