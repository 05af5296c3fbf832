-- The routing manifest: for each monitor where its events are bound and which handlers it has,
-- and for each root namespace its exchange and its variables.
import Watchtower.Blueprint.Basic
import Watchtower.Event.Kind
import Watchtower.Json.Writer

namespace Watchtower

/-- A binding of a queue to an exchange and a routing key. -/
structure Binding where
  exchange : String
  routingKey : String
  queue : String
deriving DecidableEq, Repr

/-- An event of a monitor. -/
structure EventEntry where
  name : String
  /-- The event is `periodic`, a `probe` or a `change`. -/
  kind : String
  payload : Option EventKind := none
  cron : Option String := none
  binding : Option Binding := none
  variablePath : Option String := none
  /-- A predicate decides which changes are delivered. -/
  filtered : Bool := false
deriving DecidableEq, Repr

/-- A handler of a monitor. -/
structure HandlerEntry where
  name : String
  payload : EventKind
  adapter : String
deriving DecidableEq, Repr

/-- A monitor. -/
structure MonitorEntry where
  typeName : String
  usings : List String
  events : List EventEntry
  handlers : List HandlerEntry
  /-- The number of code blocks that run when the monitor is constructed. -/
  codeBlocks : Nat
deriving DecidableEq, Repr

/-- A root namespace with its variables and their first values. -/
structure SpaceEntry where
  typeName : String
  exchange : String
  vars : List (String × Json)

/-- A routing manifest. The entries are sorted by name. -/
structure Manifest where
  version : String
  generatedAt : String
  compilerVersion : String
  monitors : List (String × MonitorEntry)
  spaces : List (String × SpaceEntry)

/-! ## The manifest of blueprints -/

/-- The entry of an event with a type of its own. The last consumer that it starts counts. -/
def EventEntry.ofBlueprint (name : String) (b : Blueprint) : EventEntry :=
  let entry : EventEntry := match b.kind with
    | .probeEvent payload _ => { name, kind := "probe", payload := some payload }
    | .changeEvent .. => { name, kind := "change", payload := some .change }
    | _ => { name, kind := "unknown" }
  (Stmt.unguarded b.constructor).foldl (fun entry stmt =>
    match stmt with
    | .startConsumer exchange routingKey queue filter =>
      let entry := { entry with binding := some ⟨exchange, routingKey, queue⟩ }
      match filter with
      | .path path predicate =>
        { entry with variablePath := some path, filtered := predicate.isSome }
      | .payload _ => entry
    | _ => entry) entry

/-- The entry of the event that a field holds, if it holds one. -/
def EventEntry.ofField? (b : Blueprint) (f : Field) : Option EventEntry :=
  match f.type with
  | .periodic =>
    let cron := match f.init with
      | some (.cron expression) => some expression
      | _ => none
    some { name := f.name, kind := "periodic", payload := some .interval, cron }
  | .event type => (b.nested? type).map (EventEntry.ofBlueprint f.name)
  | _ => none

/-- The entry of the handler that a field holds, if it holds one. -/
def HandlerEntry.ofField? (b : Blueprint) (f : Field) : Option HandlerEntry :=
  match f.type with
  | .handler type =>
    match (b.nested? type).map Blueprint.kind with
    | some (.intervalJob _) => some ⟨f.name, .interval, type⟩
    | some (.observerAdapter payload _) => some ⟨f.name, payload, type⟩
    | _ => none
  | _ => none

/-- The method runs a code block. -/
def Method.isCodeBlock (m : Method) : Bool :=
  m.body.any fun
    | .userCode (.block _) _ => true
    | _ => false

/-- The entry of a monitor. -/
def MonitorEntry.ofBlueprint (b : Blueprint) : MonitorEntry where
  typeName := b.name
  usings := b.fields.filterMap fun f =>
    match f.type with
    | .proxy space => some space
    | _ => none
  events := b.fields.filterMap (EventEntry.ofField? b)
  handlers := b.fields.filterMap (HandlerEntry.ofField? b)
  codeBlocks := b.methods.countP Method.isCodeBlock

/-- The first value of a variable, or the text of the expression that computes it. -/
def initialValue : Source.Expr → Json
  | .literal value => value.value
  | other => .str other.text

/-- The entry of a root namespace. -/
def SpaceEntry.ofBlueprint (b : Blueprint) : SpaceEntry where
  typeName := b.name
  exchange := ((Stmt.unguarded b.constructor).findSome? fun
    | .connectStore _ exchange => some exchange
    | _ => none).getD b.qualifiedName
  vars :=
    let storages := b.walk.filter (·.kind == .namespaceStorage)
    Sorted.ofList ((storages.flatMap (·.constructor)).filterMap fun
      | .registerVariable name initializer _ => some (name, initialValue initializer)
      | _ => none)

/-- The manifest of some blueprints. -/
def Manifest.ofBlueprints (generatedAt : String) (bs : List Blueprint) : Manifest where
  version := "1.0"
  generatedAt
  compilerVersion := "0.1.0"
  monitors := Sorted.ofList (bs.filterMap fun b =>
    match b.kind with
    | .monitor => some (b.qualifiedName, MonitorEntry.ofBlueprint b)
    | _ => none)
  spaces := Sorted.ofList (bs.filterMap fun b =>
    match b.kind with
    | .namespaceProxy root _ => some (root, SpaceEntry.ofBlueprint b)
    | _ => none)

/-- All bindings, sorted by queue. -/
def Manifest.bindings (m : Manifest) : List Binding :=
  (m.monitors.flatMap fun (_, entry) => entry.events.filterMap (·.binding)).mergeSort
    fun a b => a.queue ≤ b.queue

end Watchtower
