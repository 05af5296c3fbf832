-- What user code does while a system runs. A body notes entries, asks the system for something
-- and goes on with the answer, and ends: by itself, with a fault, or with a crash.
--
-- User code is given its monitor, and a body is what it does through the members of monitors. The
-- context that a monitor was linked in is out of its reach: a body publishes no event of its own,
-- binds no queue and unbinds none but by stopping a consumer, opens and raises no probe, pauses no
-- event by itself, schedules no job, and reports nothing to the failure policy. What is proved of all
-- bodies is proved of user code within this limit.
import Watchtower.Event.Basic
import Watchtower.Fault

namespace Watchtower.Live

/-- What a body notes. -/
inductive Note where
  | payload (payload : Payload)
  | value (value : Json)

/-- An observer of one kind of payload, whose reactions are of type `β`. -/
structure ObserverOf (β : Type) where
  name : String
  kind : EventKind
  /-- A fault of the reaction is recorded under the name. -/
  reports : Bool := true
  /-- The monitor with which the observer ends. -/
  owner : Option Nat := none
  react : Payload → β

/-- What a body, of type `β`, can ask for, and all that it can ask for: there is no request to the
context of a monitor. Parts of the system are given by their numbers, and namespaces by the path
from their root. -/
inductive RequestOf (β : Type) where
  /-- Stop a consumer without waiting for it. -/
  | stop (consumer : Nat)
  | unschedule (job : String)
  | observe (source : Nat) (observer : ObserverOf β)
  /-- Read a variable of a monitor. -/
  | recall (monitor : Nat) (name : String)
  /-- Write a variable of a monitor. The answer is what it held. -/
  | assign (monitor : Nat) (name : String) (value : Json)
  | subscribe (monitor : Nat) (event handler : String)
  /-- Whether a path leads from a namespace of the monitor to a namespace. -/
  | reaches (monitor : Nat) (root : String) (path : List String)
  | get (monitor : Nat) (root : String) (path : List String) (name : String)
  /-- Write a variable of a namespace. The answer is what it held. -/
  | set (monitor : Nat) (root : String) (path : List String) (name : String) (value : Json)
  | pause (monitor : Nat)
  | resume (monitor : Nat)

/-- What user code does. -/
inductive Body where
  | done
  | fail (fault : Fault)
  | crash
  /-- An entry for the journal, under a name. -/
  | note (who : String) (entry : Note) (next : Body)
  | ask (request : RequestOf Body) (next : Except Fault Json → Body)

/-- An observer. -/
abbrev Observer := ObserverOf Body

/-- A request of a body. -/
abbrev Request := RequestOf Body

namespace Body

/-- Asks for something, and fails if that fails. -/
def request (request : Request) (next : Json → Body) : Body :=
  .ask request fun
    | .ok value => next value
    | .error fault => .fail fault

end Body

end Watchtower.Live
