-- Monitors lowered to blueprints. Members keep their order; code blocks become methods that
-- the constructor calls one after the other, once the namespaces are bound.
import Watchtower.Blueprint.Thresholds
import Watchtower.Route

namespace Watchtower

open Source (Expr Specifier EventDecl HandlerDecl MonitorItem)

/-- What the members of a monitor need to know of it. -/
structure MonitorScope where
  qualifiedName : String
  typeName : String
  index : SpaceIndex

namespace MonitorScope

/-- The name of a type that belongs to a member. -/
def nestedName (scope : MonitorScope) (member suffix : String) : String :=
  scope.typeName ++ Naming.pascal member ++ suffix

/-- The qualified name of a member. -/
def member (scope : MonitorScope) (name : String) : String :=
  scope.qualifiedName ++ "." ++ name

end MonitorScope

/-! ## Events -/

/-- The name of the field that holds the predicate of a change event. -/
def predicateField : String := "specifier"

/-- The name of the change that a predicate tests. -/
def predicateEvent : String := "event"

/-- The field of an event with a type of its own. -/
def eventField (name type : String) : Field :=
  { name, type := .event type, init := some (.construct type) }

/-- The type of an event that a probe raises. It opens the probe and starts to consume its
events; one can fail without the other. -/
def Blueprint.ofProbe (scope : MonitorScope) (name : String) (kind : EventKind) (emitter : Expr) :
    Blueprint :=
  let type := scope.nestedName name "Event"
  let key := scope.member name
  { name := type
    qualifiedName := key
    kind := .probeEvent kind emitter.text
    doc := some ("`" ++ kind.typeName ++ "` raised by `" ++ emitter.text ++ "`.")
    constructor := [
      .guarded (type ++ "::new") [.openProbe key],
      .guarded (type ++ "::new") [.startConsumer probeExchange key key (.payload kind)]] }

/-- The type of a predicate. -/
def Blueprint.ofPredicate (scope : MonitorScope) (event : String) (compiled : CompiledSpecifier) :
    Blueprint :=
  { name := scope.nestedName event "Specifier"
    qualifiedName := scope.member (event ++ "." ++ predicateField)
    kind := .predicate
    fields := compiled.fields
    methods := [
      { name := "test", params := [(predicateEvent, "ChangeEvent")], returns := some "bool"
        overrides := true, propagates := true, body := [.returnPredicate compiled.predicate] },
      { name := "eq", params := [("other", "Self")], returns := some "bool", overrides := true
        body := [.returnConst false] }] }

/-- The type of a change event with a route, and perhaps with the type of a predicate. -/
def Blueprint.ofChange (scope : MonitorScope) (name : String) (emitter : Expr) (route : Route)
    (predicate : Option Blueprint) : Blueprint :=
  let type := scope.nestedName name "Event"
  { name := type
    qualifiedName := scope.member name
    kind := .changeEvent route.routingKey route.variablePath
    doc := some ("Change of `" ++ emitter.text ++ "`.")
    fields := predicate.toList.map fun p =>
      { name := predicateField, type := .predicate p.name, init := some (.construct p.name) }
    constructor := [
      .guarded (type ++ "::new") [
        .startConsumer route.exchange route.routingKey route.queue
          (.path route.variablePath (predicate.map fun _ => predicateField))]]
    nested := predicate.toList }

/-- The type of the predicate of a change event, if it has a specifier. -/
def predicateType (scope : MonitorScope) (names : NameSupply) (event : String) :
    Option Specifier → Except Rejection (Option Blueprint × NameSupply)
  | none => .ok (none, names)
  | some node => do
    let (compiled, names) ← CompiledSpecifier.ofSpecifier names node
    return (some (Blueprint.ofPredicate scope event compiled), names)

/-- An event lowered to a field and, unless it is periodic, a type. -/
def lowerEvent (scope : MonitorScope) (names : NameSupply) (decl : EventDecl) :
    Except Rejection (Field × Option Blueprint × NameSupply) :=
  let field := eventField decl.name (scope.nestedName decl.name "Event")
  match decl.emitter with
  | .periodic cron =>
    .ok ({ name := decl.name, type := .periodic, init := some (.cron cron) }, none, names)
  | .typed .change emitter specifier =>
    match Route.ofEmitter? scope.qualifiedName decl.name emitter scope.index with
    | none => .error (.emptyEmitter scope.qualifiedName decl.name)
    | some route => do
      let (predicate, names) ← predicateType scope names decl.name specifier
      return (field, some (Blueprint.ofChange scope decl.name emitter route predicate), names)
  | .typed occurrence emitter none =>
    .ok (field, some (Blueprint.ofProbe scope decl.name occurrence.kind emitter), names)
  | .typed _ _ (some _) => .error (.misplacedSpecifier (scope.member decl.name))

/-! ## Handlers -/

/-- The type that hands events to a handler: a job for intervals, an observer for all other
kinds. -/
def Blueprint.ofHandler (scope : MonitorScope) (decl : HandlerDecl) (kind : EventKind) :
    Blueprint :=
  let doc := decl.doc.or
    (some ("Dispatches `" ++ kind.typeName ++ "` to `" ++ decl.name ++ "`."))
  if kind = .interval then
    { name := scope.nestedName decl.name "Job"
      qualifiedName := scope.member decl.name
      kind := .intervalJob decl.name
      doc
      methods := [
        { name := "execute", params := [("context", "JobContext")], overrides := true
          propagates := true, body := [.dispatchInterval decl.name] }] }
  else
    { name := scope.nestedName decl.name "Observer"
      qualifiedName := scope.member decl.name
      kind := .observerAdapter kind decl.name
      doc
      methods := [
        { name := "notify", params := [("event", "Event")], overrides := true
          body := [.dispatchTyped kind decl.name] }] }

/-- The body of a handler as a method. -/
def handlerMethod (decl : HandlerDecl) (kind : EventKind) : Method :=
  { name := decl.name, params := [(decl.paramName, kind.typeName)], propagates := true
    body := [.userCode (.handler decl.name) decl.source] }

/-! ## Monitors -/

/-- What has been lowered of a monitor. -/
structure MonitorParts where
  names : NameSupply := {}
  fields : List Field := []
  methods : List Method := []
  nested : List Blueprint := []
  /-- The names of the events. -/
  events : List String := []
  /-- The names of the methods of the code blocks. -/
  blocks : List String := []

/-- Lowers one statement of a monitor. -/
def MonitorParts.add (scope : MonitorScope) (parts : MonitorParts) :
    MonitorItem → Except Rejection MonitorParts
  | .variable decl =>
    .ok { parts with
      fields := parts.fields ++ [
        { name := decl.name, type := .value decl.type, constant := !decl.writable
          init := some (.expr decl.initializer) }] }
  | .event decl => do
    let (field, type, names) ← lowerEvent scope parts.names decl
    return { parts with
      names
      fields := parts.fields ++ [field]
      nested := parts.nested ++ type.toList
      events := parts.events ++ [decl.name] }
  | .handler decl =>
    match EventKind.ofTypeName? decl.paramType with
    | none => .error (.unknownEventType scope.qualifiedName decl.name decl.paramType)
    | some kind =>
      let adapter := Blueprint.ofHandler scope decl kind
      .ok { parts with
        fields := parts.fields ++ [
          { name := decl.name, type := .handler adapter.name
            init := some (.construct adapter.name) }]
        methods := parts.methods ++ [handlerMethod decl kind]
        nested := parts.nested ++ [adapter] }
  | .code source =>
    let index := parts.names.issued "code"
    let (name, names) := parts.names.fresh "code"
    .ok { parts with
      names
      methods := parts.methods ++ [
        { name, propagates := true, body := [.userCode (.block index) source] }]
      blocks := parts.blocks ++ [name] }

/-- The name of the method that binds the namespaces. -/
def initializeMethod : String := "initialize"

/-- The method that pauses a monitor: first itself, then its events. -/
def pauseMethod (events : List String) : Method :=
  { name := "pause", overrides := true
    body := .returnIf .paused :: .callSuper "pause"
      :: events.map fun event => .callField event "pause" }

/-- The method that resumes a monitor: first its events, then itself. -/
def resumeMethod (events : List String) : Method :=
  { name := "resume", overrides := true
    body := .returnIf .running :: (events.map fun event => .callField event "resume")
      ++ [.callSuper "resume"] }

/-- A monitor of a package lowered to a blueprint. -/
def Blueprint.ofMonitor (package : Option String) (index : SpaceIndex) (decl : Source.Monitor) :
    Except Rejection Blueprint := do
  let scope : MonitorScope :=
    ⟨Source.qualify package decl.name, Naming.pascal decl.name, index⟩
  let proxies := decl.usings.map fun name =>
    { name, type := .proxy name, shared := true : Field }
  let parts ← decl.body.foldlM (MonitorParts.add scope) { fields := proxies }
  let bind : Method :=
    { name := initializeMethod, propagates := true
      body := decl.usings.map fun name => .constructProxy name name }
  return {
    name := scope.typeName
    qualifiedName := scope.qualifiedName
    kind := .monitor
    doc := some ("Monitor `" ++ scope.qualifiedName ++ "`.")
    fields := parts.fields
    constructor := [
      .guarded (scope.typeName ++ "::new")
        (.callSelf initializeMethod :: parts.blocks.map .callSelf)]
    methods := parts.methods ++ [bind, pauseMethod parts.events, resumeMethod parts.events]
    nested := parts.nested }

end Watchtower
