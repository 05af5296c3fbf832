-- A bench: a world whose parts were given names by the one who put them there. When a name is
-- given again, the part that had it is dropped.
import Watchtower.Live.Delivery

namespace Watchtower.Live

/-- What a store of a bench is kept in. -/
inductive StoreKind where
  | memory
  /-- A database that ends when it is closed. -/
  | transient
  /-- The one database that stays when it is closed. -/
  | file
deriving DecidableEq, Repr

/-- A bench. The tables give the numbers of the parts by their names. -/
structure Bench where
  world : World := {}
  /-- The store that is open. -/
  store : Option Nat := none
  /-- The store that stays. -/
  file : Option Nat := none
  consumers : List (String × Nat) := []
  sources : List (String × Nat) := []
  connections : List (String × Nat) := []
  proxies : List (String × Handle) := []
  cores : List (String × Core) := []

namespace Bench

/-! ## Stores -/

/-- Closes the open store. -/
def closeStore (b : Bench) : Bench :=
  { b with store := none }

/-- Opens a store in place of the open one. A file of another version stays closed. -/
def openStore (b : Bench) (kind : StoreKind) : Except Fault Unit × Bench :=
  let b := b.closeStore
  let empty : Store := match kind with
    | .memory => .memory []
    | _ => .database {}
  let (number, w) := match kind, b.file with
    | .file, some number => (number, b.world)
    | _, _ => b.world.addStore empty
  let b := { b with world := w, file := if kind = .file then some number else b.file }
  if kind = .memory then (.ok (), { b with store := some number })
  else
    match w.updateDatabase number Database.checked with
    | .ok w => (.ok (), { b with world := w, store := some number })
    | .error fault => (.error fault, b)

/-- Changes the database that stays. -/
def updateFile (b : Bench) (f : Database → Database) : Except Fault Bench :=
  match b.file with
  | none => .error .storage
  | some number => do
    return { b with world := ← b.world.updateDatabase number fun d => .ok (f d) }

/-! ## Consumers and sources -/

/-- Drops the consumer of a name. -/
def dropConsumer (b : Bench) (name : String) : Bench :=
  { b with
    world := ((b.consumers.lookup name).map b.world.finishConsumer).getD b.world
    consumers := b.consumers.filter (·.1 ≠ name) }

/-- Keeps a consumer, which is not started, under a name. It may know its own number. -/
def keepConsumer (b : Bench) (name : String) (consumer : Nat → Consumer) : Bench :=
  let b := b.dropConsumer name
  let (number, w) := b.world.addConsumer (consumer b.world.consumers.length)
  { b with world := w, consumers := Sorted.insert name number b.consumers }

/-- Keeps a source under a name. -/
def keepSource (b : Bench) (name : String) (source : Source) : Bench :=
  let w := ((b.sources.lookup name).map b.world.dropSource).getD b.world
  let (number, w) := w.addSource source
  { b with world := w, sources := Sorted.insert name number b.sources }

/-! ## Connections and proxies -/

/-- Drops the connection of a name. -/
def dropConnection (b : Bench) (name : String) : Bench :=
  { b with
    world := ((b.connections.lookup name).map b.world.release).getD b.world
    connections := b.connections.filter (·.1 ≠ name) }

/-- Connects a root namespace to a store, keeps the connection under a name, and enters its
variables. -/
def connect (b : Bench) (name space exchange : String) (store : Nat)
    (entries : List (String × Json × Bool)) : Except Fault Unit × Bench :=
  let b := b.dropConnection name
  let (number, w) := b.world.connect space exchange store
  let b := { b with world := w, connections := Sorted.insert name number b.connections }
  match w.registerAll number entries with
  | .ok w => (.ok (), { b with world := w })
  | .error fault => (.error fault, b)

/-- Drops the proxy of a name. -/
def dropProxy (b : Bench) (name : String) : Bench :=
  { b with
    world := ((b.proxies.lookup name).map b.world.dropHandle).getD b.world
    proxies := b.proxies.filter (·.1 ≠ name) }

/-- Keeps a node under a name. -/
def keepProxy (b : Bench) (name : String) (handle : Handle) : Bench :=
  let b := b.dropProxy name
  { b with proxies := Sorted.insert name handle b.proxies }

/-- Keeps the root of a tree of this shape under a name. It holds the connection, too. -/
def buildProxy (b : Bench) (name : String) (shape : Shape) (connection : Option Nat) : Bench :=
  { b with world := connection.elim b.world b.world.hold }.keepProxy name
    (.ofShape shape connection)

/-! ## Plain monitors -/

/-- Pauses or resumes a plain monitor with its sources. The outcome says whether that changed
anything. -/
def moveCore (b : Bench) (name : String) (core : Core) (pausing : Bool) (sources : List Nat) :
    Bool × Core × Bench :=
  let (changed, core, w) :=
    if pausing then core.pause b.world sources else core.resume b.world sources
  (changed, core, { b with world := w, cores := Sorted.insert name core b.cores })

end Bench

end Watchtower.Live
