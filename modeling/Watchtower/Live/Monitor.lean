-- Monitors at run time: their variables, their events and handlers, and the methods of the
-- blueprint from which they were linked.
import Watchtower.Blueprint.Basic
import Watchtower.Live.Proxy
import Watchtower.Live.Schedule

namespace Watchtower.Live

/-! ## Bindings -/

/-- The user code of the monitors, by their qualified names. A body is told the number of its
monitor. -/
structure Bindings where
  /-- The code blocks by their index. -/
  code : String → Nat → Option (Nat → Body) := fun _ _ => none
  /-- The handlers by their name. -/
  handler : String → String → Option (Nat → Payload → Body) := fun _ _ => none
  /-- The values of initializers that are no literals, by the qualified name of the variable. -/
  value : String → Option (Except Fault Json) := fun _ => none

/-- The value with which a variable begins: that of a literal, or else the one bound to its
name. -/
def Bindings.initial (b : Bindings) (name : String) : Source.Expr → Except Fault Json
  | .literal literal => .ok literal.value
  | _ => (b.value name).getD (.error (.unbound name))

/-- The body of a handler for a payload. -/
def Bindings.reaction (b : Bindings) (monitor : String) (number : Nat) (handler : String)
    (payload : Payload) : Body :=
  match b.handler monitor handler with
  | some body => body number payload
  | none => .fail (.unbound (monitor ++ "." ++ handler))

/-! ## Monitors -/

/-- The way in which a handler is reached. -/
inductive Handler where
  | job (task : Task)
  | observer (observer : Observer)

/-- A variable of a monitor. -/
structure MonitorVariable where
  value : Json
  constant : Bool

/-- A monitor at run time. -/
structure Monitor where
  qualifiedName : String
  /-- The variables, sorted by name. -/
  vars : List (String × MonitorVariable)
  /-- The numbers of the sources of the events, in the order of their declaration. -/
  events : List (String × Nat)
  /-- The handlers, sorted by name. -/
  handlers : List (String × Handler)
  methods : List Method
  /-- The namespaces that can be bound, by name. -/
  registry : List (String × Handle)
  bindings : Bindings
  /-- The namespaces that are bound, by name. -/
  proxies : List (String × Handle) := []
  paused : Bool := false
  /-- Nobody holds the monitor any more. -/
  dropped : Bool := false

namespace Monitor

/-- The number of the source of an event. -/
def event (m : Monitor) (name : String) : Except Fault Nat :=
  match m.events.lookup name with
  | some number => .ok number
  | none => .error (.unknownMember "event" name)

/-- The handler of this name. -/
def handler (m : Monitor) (name : String) : Except Fault Handler :=
  match m.handlers.lookup name with
  | some handler => .ok handler
  | none => .error (.unknownMember "handler" name)

/-- The method of this name. -/
def method (m : Monitor) (name : String) : Except Fault Method :=
  match m.methods.find? (·.name == name) with
  | some method => .ok method
  | none => .error (.unknownMember "method" name)

/-- The bound namespace of this name. -/
def space (m : Monitor) (name : String) : Except Fault Handle :=
  match m.proxies.lookup name with
  | some handle => .ok handle
  | none => .error (.disconnected name)

/-- The variable of this name. -/
def variable_ (m : Monitor) (name : String) : Except Fault MonitorVariable :=
  match m.vars.lookup name with
  | some v => .ok v
  | none => .error (.unknownMember "variable" name)

/-- Writes a variable that is not constant, and gives the value that it held. -/
def assign (m : Monitor) (name : String) (value : Json) : Except Fault (Json × Monitor) := do
  let v ← m.variable_ name
  if v.constant then .error (.readOnly (m.qualifiedName ++ "." ++ name))
  else .ok (v.value, { m with vars := Sorted.insert name { v with value } m.vars })

/-- Binds a namespace of the registry under a name. -/
def bindSpace (m : Monitor) (name space : String) : Except Fault Monitor :=
  match m.registry.lookup space with
  | some handle => .ok { m with proxies := Sorted.insert name handle m.proxies }
  | none => .error (.unknownMember "namespace" space)

end Monitor

end Watchtower.Live
