-- The bus: publishers name an exchange and a routing key, queues are bound to such a pair, and
-- each bound queue has a channel from which its own thread delivers, first in, first out.
import Watchtower.Event.Basic
import Watchtower.Fault

namespace Watchtower.Live

/-- What waits in a channel. -/
inductive Envelope where
  | deliver (payload : Payload)
  /-- The mark of a flush: when it is taken out, all that waited before it was delivered. -/
  | barrier (flush : Nat)
  /-- The last envelope: the thread ends. -/
  | shutdown

/-- A channel from the bus to the thread that delivers. -/
structure Channel where
  queue : String
  waiting : List Envelope := []
  /-- There is a receiver. -/
  isOpen : Bool := true

/-- An envelope put at the end of a channel. Without a receiver it is lost. -/
def Channel.send (c : Channel) (e : Envelope) : Channel :=
  if c.isOpen then { c with waiting := c.waiting ++ [e] } else c

/-- A queue bound to an exchange and a routing key. -/
structure Binding where
  exchange : String
  routingKey : String
  queue : String
  channel : Nat
deriving DecidableEq, Repr

/-- The bus. The bindings are in the order in which they were made; channels are numbered and
stay when their binding goes. -/
structure Bus where
  bindings : List Binding := []
  channels : List Channel := []
  /-- How many flushes began. -/
  flushes : Nat := 0

namespace Bus

/-! ## Bindings -/

/-- A queue of this name is bound. -/
def isBound (b : Bus) (queue : String) : Bool :=
  b.bindings.any (·.queue == queue)

/-- The bindings to which a publisher with this exchange and routing key speaks. -/
def routes (b : Bus) (exchange routingKey : String) : List Binding :=
  b.bindings.filter fun r => r.exchange == exchange && r.routingKey == routingKey

/-- The queues bound to a pair. -/
def queuesFor (b : Bus) (exchange routingKey : String) : List String :=
  (b.routes exchange routingKey).map (·.queue)

/-- Binds a queue, and gives the number of its new channel. Names of bound queues differ. -/
def bind (b : Bus) (exchange routingKey queue : String) : Except Fault (Nat × Bus) :=
  if b.isBound queue then .error (.consumer queue "queue is already bound")
  else
    let channel := b.channels.length
    .ok (channel, { b with
      bindings := b.bindings ++ [⟨exchange, routingKey, queue, channel⟩]
      channels := b.channels ++ [{ queue }] })

/-! ## Envelopes -/

/-- Sends an envelope into a channel. -/
def send (b : Bus) (channel : Nat) (e : Envelope) : Bus :=
  { b with channels := b.channels.modify channel (·.send e) }

/-- The channel has a receiver. -/
def isOpen (b : Bus) (channel : Nat) : Bool :=
  b.channels[channel]?.any (·.isOpen)

/-- Takes the receiver of a channel away, with all that waits for it. -/
def close (b : Bus) (channel : Nat) : Bus :=
  { b with channels := b.channels.modify channel fun c => { c with waiting := [], isOpen := false } }

/-- Publishes a payload, and gives the number of queues that received it. -/
def publish (b : Bus) (exchange routingKey : String) (payload : Payload) : Nat × Bus :=
  let bound := b.routes exchange routingKey
  (bound.countP (b.isOpen ·.channel),
    bound.foldl (fun b r => b.send r.channel (.deliver payload)) b)

/-- Unbinds a queue. What waits in its channel is still delivered, then the thread ends. -/
def unbind (b : Bus) (queue : String) : Bus :=
  match b.bindings.find? (·.queue == queue) with
  | none => b
  | some r =>
    { b with bindings := b.bindings.eraseP (·.queue == queue) }.send r.channel .shutdown

/-- Begins a flush: a barrier in the channel of each bound queue. -/
def beginFlush (b : Bus) : Bus :=
  let flushed := b.bindings.foldl (fun b r => b.send r.channel (.barrier b.flushes)) b
  { flushed with flushes := flushed.flushes + 1 }

/-- A flush is over: no channel holds its barrier any more. -/
def isFlushed (b : Bus) (flush : Nat) : Bool :=
  b.channels.all fun c => c.waiting.all fun
    | .barrier n => n != flush
    | _ => true

/-- How many envelopes wait in a channel. -/
def waitingIn (b : Bus) (channel : Nat) : Nat :=
  (b.channels[channel]?.map (·.waiting.length)).getD 0

/-- Nothing waits in any channel. -/
def isQuiet (b : Bus) : Bool :=
  b.channels.all (·.waiting.isEmpty)

/-- The step of the thread of a channel: the first envelope is taken out. A shutdown is the end
of the channel. -/
def take (b : Bus) (channel : Nat) : Option (Envelope × Bus) :=
  match b.channels[channel]? with
  | none => none
  | some c =>
    match c.waiting with
    | [] => none
    | .shutdown :: _ => some (.shutdown, b.close channel)
    | e :: rest =>
      some (e, { b with channels := b.channels.set channel { c with waiting := rest } })

end Bus

end Watchtower.Live
