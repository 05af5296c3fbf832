-- Consumers: each binds one queue while it runs, and hands what is delivered to a listener.
import Watchtower.Live.Body
import Watchtower.Live.Bus

namespace Watchtower.Live

/-- Who takes what a consumer delivers. -/
inductive Listener where
  | callback (react : Payload → Body)
  /-- A source of events, by its number. -/
  | source (number : Nat)

/-- Where a consumer binds its queue, and a word on what it is for. -/
structure ConsumerConfig where
  exchange : String
  routingKey : String
  queue : String
  context : String := ""
deriving DecidableEq, Repr

/-- A consumer. It runs from its start to its stop, whatever becomes of its binding. -/
structure Consumer where
  config : ConsumerConfig
  listener : Listener
  isRunning : Bool := false
  /-- The channels of its queue, one for each start and the latest first. -/
  channels : List Nat := []

namespace Consumer

/-- Starts a consumer. One that runs goes on. -/
def start (c : Consumer) (bus : Bus) : Except Fault (Consumer × Bus) :=
  if c.isRunning then .ok (c, bus)
  else do
    let (channel, bus) ← bus.bind c.config.exchange c.config.routingKey c.config.queue
    return ({ c with isRunning := true, channels := channel :: c.channels }, bus)

/-- Stops a consumer: its queue is unbound. -/
def stop (c : Consumer) (bus : Bus) : Consumer × Bus :=
  if c.isRunning then ({ c with isRunning := false }, bus.unbind c.config.queue) else (c, bus)

end Consumer

end Watchtower.Live
