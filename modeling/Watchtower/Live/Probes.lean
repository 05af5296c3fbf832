-- Probes: each watches the calls of one place of an application, and raises what it sees on the
-- bus under its routing key while it runs.
import Watchtower.Live.Bus
import Watchtower.Route
import Watchtower.Sorted

namespace Watchtower.Live

/-- The probes that were opened, by routing key, each with whether it runs. -/
structure Probes where
  probes : List (String × Bool) := []

namespace Probes

/-- The probe of a routing key runs; nothing if it was never opened. -/
def isRunning? (p : Probes) (routingKey : String) : Option Bool :=
  p.probes.lookup routingKey

/-- The routing keys of all probes, sorted. -/
def routingKeys (p : Probes) : List String :=
  p.probes.map (·.1)

/-- Opens the probe of a routing key. One that is open stays as it is. -/
def open_ (p : Probes) (routingKey : String) : Except Fault Probes :=
  if routingKey.isEmpty then .error (.probe routingKey "routing key is empty")
  else
    match p.isRunning? routingKey with
    | some _ => .ok p
    | none => .ok ⟨Sorted.insert routingKey false p.probes⟩

/-- Starts or stops an open probe. -/
def setRunning (p : Probes) (routingKey : String) (running : Bool) : Probes :=
  if (p.isRunning? routingKey).isSome then ⟨Sorted.insert routingKey running p.probes⟩ else p

/-- Raises a payload, and gives the number of queues that received it. A probe that does not run
raises nothing. -/
def raise (p : Probes) (bus : Bus) (routingKey : String) (payload : Payload) : Nat × Bus :=
  if p.isRunning? routingKey = some true then bus.publish probeExchange routingKey payload
  else (0, bus)

end Probes

/-- The payloads of a call that ended with an outcome, in the order in which they are raised. The
call took the time from `start` to `stop`. -/
def callPayloads (call : MethodCall) (start stop : Nat) : Except Fault Json → List Payload
  | .ok value => [.invoke call, .timeLapse start stop, .returned call value]
  | .error fault => [.invoke call, .exception call fault.message]

/-- The events of a call. All are of one transaction, and each has a stamp: an identity and a time
of its own. -/
def callEvents (transaction : Uuid) (stamp : Nat → Uuid × Timestamp) (call : MethodCall)
    (start stop : Nat) (outcome : Except Fault Json) : List Event :=
  (callPayloads call start stop outcome).mapIdx fun i payload =>
    ⟨⟨transaction, (stamp i).1, (stamp i).2⟩, payload⟩

end Watchtower.Live
