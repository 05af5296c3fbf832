-- The parts of a running system as JSON: what is told of them when somebody asks.
import Watchtower.Live.World

namespace Watchtower.Live

/-- What was noted of a payload: its kind and what it carries, without times. -/
def payloadForm : Payload → Json
  | .interval expression => .ofTexts ["Interval", expression]
  | .invoke call => callForm "Invoke" call (.arr call.arguments)
  | .returned call value => callForm "Return" call value
  | .exception call message => callForm "Exception" call (.str message)
  | .timeLapse start stop => .arr [.str "TimeLapse", .bool (start ≤ stop)]
  | .change path previous current => .arr [.str "Change", .str path, previous, current]
where
  /-- The form of a payload about a call. -/
  callForm (kind : String) (call : MethodCall) (last : Json) : Json :=
    .arr [.str kind, .str call.class_, .str call.method, .ofTexts call.parameters, last]

/-- The form of a note. -/
def Note.form : Note → Json
  | .payload p => payloadForm p
  | .value v => v

/-- The form of a variable of a store. -/
def VariableEntry.form (e : VariableEntry) : Json :=
  .obj [("name", .str e.name), ("value", e.value), ("writable", .bool e.writable)]

/-- Reads variables: lists of a name, a value and whether it is writable. -/
def VariableEntry.listOf : Json → List (String × Json × Bool)
  | .arr entries => entries.filterMap fun
    | .arr (.str name :: rest) =>
      let writable := match rest with
        | _ :: .bool b :: _ => b
        | _ => false
      some (name, rest.headD .null, writable)
    | _ => none
  | _ => []

/-- The form of a consumer. -/
def Consumer.form (c : Consumer) : Json :=
  .arr [.str c.config.exchange, .str c.config.routingKey, .str c.config.queue,
    .str c.config.context, .bool c.isRunning]

namespace World

/-- The form of a probe. -/
def probeForm (w : World) (routingKey : String) : Json :=
  .arr [.str routingKey, .bool (w.probes.isRunning? routingKey == some true)]

/-- The form of a source. One that is raised by a schedule has no observers to count. -/
def sourceForm (w : World) (s : Source) : Json :=
  let observers : Json := .ofNat s.observers.length
  if s.isManual then .obj [("observers", observers), ("paused", .bool s.paused)]
  else .obj [("name", .str s.name), ("type", .str s.kind.name), ("emitter", .str s.emitter),
    ("paused", .bool s.paused), ("probe", (s.probe.map w.probeForm).getD .null),
    ("consumer", ((s.consumer.bind (w.consumers[·]?)).map Consumer.form).getD .null),
    ("observers", if s.isPeriodic then .null else observers)]

/-- The form of a node of a namespace tree. -/
def handleForm (w : World) (h : Handle) : Json :=
  .obj [("name", .str h.proxy.name), ("qualified", .str h.proxy.qualifiedName),
    ("connected", .bool (w.isConnected h)),
    ("variables", .ofTexts (h.proxy.vars.map (·.1))),
    ("setters", .arr (h.proxy.vars.map fun (name, _) => .bool (h.proxy.hasSetter name)))]

/-- The form of all variables of a store. -/
def storeForm (w : World) (store : Nat) : Except Fault Json := do
  return .arr ((← (← w.store store).entries).map (·.form))

/-- The form of the jobs: name, state and expression of each. -/
def jobsForm (w : World) : Json :=
  .arr (w.schedule.jobs.map fun (id, job) =>
    .arr [.str id, .bool job.paused, .str job.cron.source])

/-- The notes of the journal in their order, under the thread and the name of who noted them. -/
def journalForm (w : World) : List (String × Json) :=
  let logs := w.journal.foldl (fun logs entry =>
    let key := entry.thread ++ "/" ++ entry.who
    Sorted.insert key ((logs.lookup key).getD [] ++ [entry.note.form]) logs) []
  logs.map fun (key, notes) => (key, .arr notes)

/-- The failures, each with its site and its message: in the order in which they were recorded, or
sorted by their texts. -/
def failuresForm (w : World) (sorted : Bool) : Json :=
  let failures := if sorted then w.failures.mergeSort Failure.le else w.failures
  .arr (failures.map fun f => .ofTexts [f.site, f.message])

end World

/-- Reads a shape: its name, pairs of a variable and whether it has a setter, and its children.
Shapes are nested so many times at most. -/
def Shape.ofJson? : Nat → Json → Option Shape
  | 0, _ => none
  | depth + 1, value => do
    let name ← (← value.get? "name").text?
    let listOf (key : String) : List Json :=
      match value.get? key with
      | some (.arr items) => items
      | _ => []
    let vars := (listOf "variables").filterMap fun
      | .arr (.str variable_ :: .bool hasSetter :: _) => some (variable_, hasSetter)
      | .arr (.str variable_ :: _) => some (variable_, false)
      | _ => none
    return ⟨name, vars, ← (listOf "children").mapM (ofJson? depth)⟩

end Watchtower.Live
