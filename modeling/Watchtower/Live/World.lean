-- The world: all parts of a running system. Parts that others refer to have numbers, which they
-- keep. A fault leaves the world as it was, unless said otherwise.
import Watchtower.Live.Consumer
import Watchtower.Live.Monitor
import Watchtower.Live.Probes
import Watchtower.Live.Source
import Watchtower.Live.Store

namespace Watchtower.Live

/-- An entry of the journal: who noted what. -/
structure JournalEntry where
  /-- The queue whose thread ran the body, or nothing on the thread of the caller. -/
  thread : String
  who : String
  note : Note

/-- A fault that was recorded instead of being returned. -/
structure Failure where
  site : String
  message : String
deriving DecidableEq, Repr

/-- The order of failures by their texts, the site before the message. -/
def Failure.le (a b : Failure) : Bool :=
  a.site < b.site || (a.site = b.site && !decide (b.message < a.message))

/-- A running system. -/
structure World where
  bus : Bus := {}
  probes : Probes := {}
  schedule : Schedule := {}
  stores : List Store := []
  consumers : List Consumer := []
  sources : List Source := []
  connections : List Connection := []
  /-- The root namespaces that were linked, sorted by name. -/
  spaces : List (String × Handle) := []
  monitors : List Monitor := []
  journal : List JournalEntry := []
  failures : List Failure := []

namespace World

/-! ## Journal and failures -/

/-- Notes an entry. -/
def note (w : World) (thread who : String) (note : Note) : World :=
  { w with journal := w.journal ++ [⟨thread, who, note⟩] }

/-- Records a fault. -/
def record (w : World) (site : String) (fault : Fault) : World :=
  { w with failures := w.failures ++ [⟨site, fault.message⟩] }

/-! ## Stores -/

/-- Adds a store, and gives its number. -/
def addStore (w : World) (store : Store) : Nat × World :=
  (w.stores.length, { w with stores := w.stores ++ [store] })

/-- The store with a number. -/
def store (w : World) (number : Nat) : Except Fault Store :=
  match w.stores[number]? with
  | some store => .ok store
  | none => .error .storage

/-- Changes a database. A store in memory is none. -/
def updateDatabase (w : World) (number : Nat) (f : Database → Except Fault Database) :
    Except Fault World := do
  match ← w.store number with
  | .memory _ => .error .storage
  | .database data => return { w with stores := w.stores.set number (.database (← f data)) }

/-- Enters a variable into a store, unless there is one of this name. -/
def register (w : World) (store : Nat) (name : String) (value : Json) (writable : Bool) :
    Except Fault (Bool × World) := do
  let (added, s) := (← w.store store).register name value writable
  return (added, { w with stores := w.stores.set store s })

/-- The value of a variable of a store. -/
def storeGet (w : World) (store : Nat) (name : String) : Except Fault Json := do
  (← w.store store).get name

/-- Writes a variable of a store, and gives the value that it held. -/
def storeSet (w : World) (store : Nat) (name : String) (value : Json) :
    Except Fault (Json × World) := do
  let (previous, s) ← (← w.store store).set name value
  return (previous, { w with stores := w.stores.set store s })

/-! ## Connections -/

/-- Connects a root namespace to a store, and gives the number of the connection. -/
def connect (w : World) (space exchange : String) (store : Nat) : Nat × World :=
  (w.connections.length, { w with
    connections := w.connections ++ [{ space, exchange, store }] })

/-- Enters the variables of a connection into its store. Those that are there stay. -/
def registerAll (w : World) (connection : Nat) (entries : List (String × Json × Bool)) :
    Except Fault World :=
  match w.connections[connection]? with
  | none => .error .storage
  | some c => do
    let s := (← w.store c.store).registerAll entries
    return { w with stores := w.stores.set c.store s }

/-- One more holds a connection. -/
def hold (w : World) (connection : Nat) : World :=
  { w with connections := w.connections.modify connection fun c =>
      { c with holders := c.holders + 1 } }

/-- One less holds a connection. -/
def release (w : World) (connection : Nat) : World :=
  { w with connections := w.connections.modify connection fun c =>
      { c with holders := c.holders - 1 } }

/-- The connection with a number, while somebody holds it. -/
def connection? (w : World) (number : Nat) : Option Connection :=
  w.connections[number]?.filter (0 < ·.holders)

/-- Reads a variable through a connection. -/
def connectionGet (w : World) (c : Connection) (name : String) : Except Fault Json :=
  w.storeGet c.store name

/-- Writes a variable through a connection, and publishes the change. -/
def connectionSet (w : World) (c : Connection) (name : String) (value : Json) :
    Except Fault (Json × World) := do
  let (previous, w) ← w.storeSet c.store name value
  let (_, bus) := w.bus.publish c.exchange c.space (c.change name previous value)
  return (previous, { w with bus })

/-! ## Proxies -/

/-- The holder of a node drops it. With a root goes a hold on the connection. -/
def dropHandle (w : World) (h : Handle) : World :=
  if h.isRoot then h.connection.elim w w.release else w

/-- The connection of a node. -/
def connectionOf (w : World) (h : Handle) : Except Fault Connection :=
  match h.connection.bind w.connection? with
  | some c => .ok c
  | none => .error (.disconnected h.proxy.qualifiedName)

/-- The node is connected. -/
def isConnected (w : World) (h : Handle) : Bool :=
  (h.connection.bind w.connection?).isSome

/-- Reads a variable of a node. -/
def get (w : World) (h : Handle) (name : String) : Except Fault Json := do
  let qualified ← h.proxy.readable name
  w.connectionGet (← w.connectionOf h) qualified

/-- Writes a variable of a node, and gives the value that it held. -/
def set (w : World) (h : Handle) (name : String) (value : Json) : Except Fault (Json × World) := do
  let qualified ← h.proxy.writable name
  w.connectionSet (← w.connectionOf h) qualified value

/-! ## Sources and consumers -/

/-- Adds a source, and gives its number. -/
def addSource (w : World) (source : Source) : Nat × World :=
  (w.sources.length, { w with sources := w.sources ++ [source] })

/-- Changes a source. -/
def modifySource (w : World) (number : Nat) (f : Source → Source) : World :=
  { w with sources := w.sources.modify number f }

/-- Adds a consumer, and gives its number. -/
def addConsumer (w : World) (consumer : Consumer) : Nat × World :=
  (w.consumers.length, { w with consumers := w.consumers ++ [consumer] })

/-- Starts a consumer. -/
def startConsumer (w : World) (number : Nat) : Except Fault World :=
  match w.consumers[number]? with
  | none => .ok w
  | some c => do
    let (c, bus) ← c.start w.bus
    return { w with bus, consumers := w.consumers.set number c }

/-- Stops a consumer, without waiting for what is left in its channels. -/
def stopConsumer (w : World) (number : Nat) : World :=
  match w.consumers[number]? with
  | none => w
  | some c =>
    let (c, bus) := c.stop w.bus
    { w with bus, consumers := w.consumers.set number c }

/-- Opens and starts the probe of a source. A source has one probe; a second is started
nevertheless. -/
def openProbe (w : World) (source : Nat) (routingKey : String) : Except Fault Unit × World :=
  match w.probes.open_ routingKey with
  | .error fault => (.error fault, w)
  | .ok probes =>
    let w := { w with probes := probes.setRunning routingKey true }
    if w.sources[source]?.any (·.probe.isSome) then
      (.error (.probe routingKey "probe already opened"), w)
    else (.ok (), w.modifySource source fun s => { s with probe := some routingKey })

/-- Starts the consumer of a source. A source has one consumer. -/
def consume (w : World) (source : Nat) (config : ConsumerConfig) : Except Fault World := do
  let (number, w') := w.addConsumer { config, listener := .source source }
  let w' ← w'.startConsumer number
  if w.sources[source]?.any (·.consumer.isSome) then
    .error (.consumer config.queue "consumer already started")
  else .ok (w'.modifySource source fun s => { s with consumer := some number })

/-- Pauses a source. -/
def pauseSource (w : World) (number : Nat) : World :=
  match w.sources[number]? with
  | none => w
  | some s =>
    let (s, schedule) := s.pause w.schedule
    { w with schedule, sources := w.sources.set number s }

/-- Resumes a source. -/
def resumeSource (w : World) (number : Nat) : World :=
  match w.sources[number]? with
  | none => w
  | some s =>
    let (s, schedule) := s.resume w.schedule
    { w with schedule, sources := w.sources.set number s }

/-- Schedules a task of a handler for a source, and gives the name of the job. Only a source that
is raised by a schedule has jobs. -/
def subscribeJob (w : World) (source : Nat) (handler : String) (task : Task) :
    Except Fault (String × World) :=
  match w.sources[source]? with
  | none => .error (.unknownMember "event" "")
  | some s =>
    match s.trigger with
    | .schedule cron => do
      let (id, s, schedule) ← s.subscribeJob w.schedule cron handler task
      return (id, { w with schedule, sources := w.sources.set source s })
    | _ => .error (.incompatibleHandler s.name handler)

/-! ## Probes -/

/-- Raises a payload at a probe, and gives the number of queues that received it. -/
def raise (w : World) (routingKey : String) (payload : Payload) : Nat × World :=
  let (count, bus) := w.probes.raise w.bus routingKey payload
  (count, { w with bus })

/-- A probe sees a call: all events that it raises. The bus passes on what they carry, without
their headers. -/
def intercept (w : World) (routingKey : String) (call : MethodCall) (start stop : Nat)
    (outcome : Except Fault Json) (transaction : Uuid := ⟨0⟩)
    (stamp : Nat → Uuid × Timestamp := fun _ => (⟨0⟩, ⟨0, 0⟩)) : World :=
  (callEvents transaction stamp call start stop outcome).foldl
    (fun w e => (w.raise routingKey e.payload).2) w

/-! ## Monitors -/

/-- The monitor with a number. -/
def monitor (w : World) (number : Nat) : Except Fault Monitor :=
  match w.monitors[number]? with
  | some m => .ok m
  | none => .error (.unknownMember "monitor" (toString number))

/-- The owner of a part is still there. A part without an owner does not end. -/
def isAlive (w : World) (owner : Option Nat) : Bool :=
  owner.all fun number => w.monitors[number]?.any (!·.dropped)

/-- Writes a variable of a monitor, and gives the value that it held. -/
def assign (w : World) (number : Nat) (name : String) (value : Json) :
    Except Fault (Json × World) := do
  let (previous, m) ← (← w.monitor number).assign name value
  return (previous, { w with monitors := w.monitors.set number m })

/-- Subscribes a handler of a monitor to one of its events: jobs to schedules, observers to all
others. -/
def subscribe (w : World) (number : Nat) (event handler : String) : Except Fault World := do
  let m ← w.monitor number
  let source ← m.event event
  let reached ← m.handler handler
  match w.sources[source]?.map (·.isPeriodic), reached with
  | some true, .job task => return (← w.subscribeJob source handler task).2
  | some false, .observer observer => return w.modifySource source (·.observe observer)
  | _, _ => .error (.incompatibleHandler event handler)

/-- The node to which names lead from a namespace that is bound in a monitor. -/
def reach (w : World) (number : Nat) (root : String) (path : List String) :
    Except Fault (Option Handle) := do
  return (← (← w.monitor number).space root).descend? path

end World

end Watchtower.Live
