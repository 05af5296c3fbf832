-- Monitors linked from their blueprints: the fields are made in order, then the constructor
-- runs. When a monitor is refused, the consumers of its events are stopped again.
import Watchtower.Linking.Event

namespace Watchtower.Linking

open Live

/-- The members of a monitor that is being linked. -/
structure MonitorMembers where
  vars : List (String × MonitorVariable) := []
  events : List (String × Nat) := []
  handlers : List (String × Handler) := []

/-- The monitor to which members belong. -/
structure MonitorPlace where
  number : Nat
  blueprint : Blueprint
  bindings : Bindings

/-- The handler that an adapter type stands for. -/
def linkHandler (place : MonitorPlace) (adapter : Blueprint) : Link Handler :=
  let reaction := place.bindings.reaction place.blueprint.qualifiedName place.number
  match adapter.kind with
  | .intervalJob handler =>
    return .job
      { owner := some place.number
        run := fun expression => reaction handler (.interval expression) }
  | .observerAdapter kind handler =>
    return .observer
      { name := adapter.qualifiedName
        kind
        owner := some place.number
        react := reaction handler }
  | other => Link.refuse adapter.qualifiedName (other.outline ++ " is not a handler adapter")

/-- Makes a field of a monitor. -/
def addField (place : MonitorPlace) (members : MonitorMembers) (field : Field) :
    Link MonitorMembers := do
  let b := place.blueprint
  match field.type, field.init with
  | .proxy _, _ => return members
  | .value _, some (.expr initializer) =>
    let name := b.qualifiedName ++ "." ++ field.name
    let value ← Link.ofExcept name (place.bindings.initial name initializer)
    return { members with
      vars := Sorted.insert field.name ⟨value, field.constant⟩ members.vars }
  | .periodic, some (.cron expression) =>
    let source ← modifyGet
      (·.addSource { name := field.name, trigger := .schedule expression })
    return { members with events := members.events ++ [(field.name, source)] }
  | .event type, _ =>
    let source ← linkEvent (← nestedType b type)
    return { members with events := members.events ++ [(field.name, source)] }
  | .handler type, _ =>
    let handler ← linkHandler place (← nestedType b type)
    return { members with handlers := Sorted.insert field.name handler members.handlers }
  | type, _ =>
    Link.refuse b.qualifiedName
      ("field '" ++ field.name ++ "' of kind " ++ type.outline ++ " cannot be linked")

/-- Drops all sources from a number on. -/
def dropSourcesFrom (first : Nat) (w : World) : World :=
  (w.sources.zipIdx.drop first).foldl (fun w (_, number) => w.dropSource number) w

/-- Links a monitor, and gives its number. -/
def linkMonitor (bindings : Bindings) (b : Blueprint) : Link Nat := do
  if b.kind ≠ .monitor then Link.refuse b.qualifiedName "not a monitor"
  let w ← get
  let number := w.monitors.length
  let members ← Link.orElseUndo (b.fields.foldlM (addField ⟨number, b, bindings⟩) {})
    (dropSourcesFrom w.sources.length)
  modify fun w => { w with monitors := w.monitors ++ [
    { qualifiedName := b.qualifiedName
      vars := members.vars
      events := members.events
      handlers := members.handlers
      methods := b.methods
      registry := w.spaces
      bindings }] }
  Link.orElseUndo (Link.ofRun b.qualifiedName (execute callDepth "" number b.constructor))
    (·.dropMonitor number)
  return number

/-- Links all monitors among some blueprints, and gives their numbers. When one is refused those
before it are dropped. -/
def linkMonitors (bindings : Bindings) : List Blueprint → Link (List Nat)
  | [] => return []
  | b :: rest => do
    if b.kind = .monitor then
      let number ← linkMonitor bindings b
      let others ← Link.orElseUndo (linkMonitors bindings rest) (·.dropMonitor number)
      return number :: others
    else linkMonitors bindings rest

end Watchtower.Linking
