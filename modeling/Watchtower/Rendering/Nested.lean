-- The types that belong to the members of a monitor, rendered as code: events, predicates,
-- jobs and observers.
import Watchtower.Rendering.Body

namespace Watchtower.Rendering

open Text (quoted)

/-- The lines of a doc comment. -/
def docLines (doc : Option String) : List String :=
  match doc with
  | none => []
  | some doc => (Text.lines doc).map ("/// " ++ ·)

/-- The lines of the constructor of an event. -/
def eventConstructor (b : Blueprint) (before fields : List String) :
    Except RenderFlaw (List String) := do
  let body ← bodyLines { receiver := "event", context := "context" } 2 b.constructor
  return ["impl " ++ b.name ++ " \x7b", "    pub fn new(context: &RuntimeContext) -> Arc<Self> \x7b"]
    ++ before ++ ["        let event = Arc::new(Self \x7b"]
    ++ fields.map (fun field => "            " ++ field ++ ",")
    ++ ["        \x7d);"] ++ body ++ ["        event", "    \x7d", "\x7d", ""]

/-- The lines by which an event hands everything to its source. -/
def delegation (type source : String) : List String := [
  "impl std::ops::Deref for " ++ type ++ " \x7b",
  "    type Target = " ++ source ++ ";",
  "",
  "    fn deref(&self) -> &" ++ source ++ " \x7b",
  "        &self.source",
  "    \x7d",
  "\x7d",
  "",
  "impl Pausable for " ++ type ++ " \x7b",
  "    fn pause(&self) \x7b",
  "        self.source.pause();",
  "    \x7d",
  "",
  "    fn resume(&self) \x7b",
  "        self.source.resume();",
  "    \x7d",
  "",
  "    fn is_paused(&self) -> bool \x7b",
  "        self.source.is_paused()",
  "    \x7d",
  "\x7d",
  "",
  "impl MonitorEvent for " ++ type ++ " \x7b",
  "    fn name(&self) -> &str \x7b",
  "        self.source.name()",
  "    \x7d",
  "",
  "    fn event_type(&self) -> EventType \x7b",
  "        self.source.event_type()",
  "    \x7d",
  "",
  "    fn emitter(&self) -> Emitter \x7b",
  "        self.source.emitter()",
  "    \x7d",
  "",
  "    fn probe(&self) -> Option<Arc<dyn Probe>> \x7b",
  "        self.source.probe()",
  "    \x7d",
  "",
  "    fn consumer(&self) -> Option<&EventConsumer> \x7b",
  "        self.source.consumer()",
  "    \x7d",
  "",
  "    fn subject(&self) -> Option<&Subject> \x7b",
  "        self.source.subject()",
  "    \x7d",
  "\x7d"]

/-- The lines of an event that a probe raises. -/
def probeEventLines (b : Blueprint) (payload : EventKind) (emitter : String) :
    Except RenderFlaw (List String) := do
  let source := "source: ProbeEventSource::new(" ++ quoted (Text.lastDotted b.qualifiedName)
    ++ ", EventType::" ++ payload.name ++ ", " ++ quoted emitter ++ ")"
  let constructor ← eventConstructor b [] [source]
  return docLines b.doc
    ++ ["pub struct " ++ b.name ++ " \x7b", "    source: ProbeEventSource,", "\x7d", ""]
    ++ constructor ++ delegation b.name "ProbeEventSource"

/-- The lines that implement the test of a predicate. -/
def testLines (b : Blueprint) : Except RenderFlaw (List String) :=
  match b.method? "test" with
  | none => .ok []
  | some test => do
    let event := (test.params.head?.map (·.1)).getD "event"
    let body ← bodyLines { receiver := "self", context := "self.context", event } 2 test.body
    return ["impl Predicate for " ++ b.name ++ " \x7b",
        "    fn test(&self, " ++ event ++ ": &ChangeEvent) -> Result<bool> \x7b"]
      ++ body ++ ["    \x7d", "\x7d"]

/-- The lines that implement the equality of a predicate. -/
def equalityLines (b : Blueprint) : Except RenderFlaw (List String) :=
  match b.method? "eq" with
  | none => .ok []
  | some eq => do
    let body ← bodyLines { receiver := "self", context := "self.context" } 2 eq.body
    return ["", "impl PartialEq for " ++ b.name ++ " \x7b",
        "    fn eq(&self, other: &Self) -> bool \x7b"]
      ++ body ++ ["    \x7d", "\x7d"]

/-- The lines of a predicate. -/
def predicateLines (b : Blueprint) : Except RenderFlaw (List String) := do
  let inits ← initLines b b.fields
  let test ← testLines b
  let equality ← equalityLines b
  return docLines b.doc ++ ["pub struct " ++ b.name ++ " \x7b"] ++ fieldLines "" b.fields
    ++ ["\x7d", "", "impl " ++ b.name ++ " \x7b", "    pub fn new() -> Arc<Self> \x7b",
      "        Arc::new(Self \x7b"]
    ++ inits ++ ["        \x7d)", "    \x7d", "\x7d", ""] ++ test ++ equality

/-- The expression for the predicate of a change event: the last field that is one. -/
def predicateText (fields : List Field) : String :=
  fields.foldl (fun text f =>
    match f.type with
    | .predicate _ => "Some(" ++ Naming.ident f.name ++ ".clone() as Arc<dyn Predicate>)"
    | _ => text) "None"

/-- The lines of a change event. -/
def changeEventLines (b : Blueprint) (space path : String) : Except RenderFlaw (List String) := do
  let before ← b.fields.mapM fun f => do
    return "        let " ++ Naming.ident f.name ++ " = " ++ (← fieldInit b f) ++ ";"
  let source := "source: ChangeEventSource::new(" ++ quoted (Text.lastDotted b.qualifiedName) ++ ", "
    ++ quoted space ++ ", " ++ quoted path ++ ", " ++ predicateText b.fields ++ ")"
  let constructor ← eventConstructor b before
    (source :: b.fields.map fun f => Naming.ident f.name)
  let inner ← b.nested.mapM predicateLines
  return docLines b.doc ++ ["pub struct " ++ b.name ++ " \x7b"] ++ fieldLines "" b.fields
    ++ ["    source: ChangeEventSource,", "\x7d", ""] ++ constructor
    ++ delegation b.name "ChangeEventSource" ++ inner.flatMap ("" :: ·)

/-- The lines of the job of a handler. -/
def jobLines (monitor : String) (b : Blueprint) (handler : String) : List String :=
  docLines b.doc ++ [
    "pub struct " ++ b.name ++ " \x7b",
    "    monitor: Weak<" ++ monitor ++ ">,",
    "\x7d",
    "",
    "impl " ++ b.name ++ " \x7b",
    "    pub fn new(monitor: Weak<" ++ monitor ++ ">) -> Arc<Self> \x7b",
    "        Arc::new(Self \x7b monitor \x7d)",
    "    \x7d",
    "\x7d",
    "",
    "impl Job for " ++ b.name ++ " \x7b",
    "    fn execute(&self, context: &JobContext) -> Result<()> \x7b",
    "        let expression = context.get_string(EXPRESSION_KEY)?;",
    "        let event = IntervalEvent::new(expression);",
    "        match self.monitor.upgrade() \x7b",
    "            Some(monitor) => monitor." ++ Naming.ident handler ++ "(&event),",
    "            None => Ok(()),",
    "        \x7d",
    "    \x7d",
    "\x7d"]

/-- The lines of the observer of a handler. -/
def observerLines (monitor : String) (b : Blueprint) (payload : EventKind) (handler : String) :
    List String :=
  docLines b.doc ++ [
    "pub struct " ++ b.name ++ " \x7b",
    "    monitor: Weak<" ++ monitor ++ ">,",
    "    policy: Arc<dyn FailurePolicy>,",
    "\x7d",
    "",
    "impl " ++ b.name ++ " \x7b",
    "    pub fn new(monitor: Weak<" ++ monitor ++ ">, policy: Arc<dyn FailurePolicy>) -> Arc<Self> \x7b",
    "        Arc::new(Self \x7b monitor, policy \x7d)",
    "    \x7d",
    "\x7d",
    "",
    "impl Observer for " ++ b.name ++ " \x7b",
    "    fn notify(&self, event: &Event) \x7b",
    "        let Event::" ++ payload.name ++ "(payload) = event else \x7b",
    "            return;",
    "        \x7d;",
    "        let Some(monitor) = self.monitor.upgrade() else \x7b",
    "            return;",
    "        \x7d;",
    "        guarded(self.policy.as_ref(), " ++ quoted b.qualifiedName ++ ", || monitor."
      ++ Naming.ident handler ++ "(payload));",
    "    \x7d",
    "\x7d"]

/-- The lines of a type that belongs to a member of a monitor. -/
def nestedLines (monitor : String) (b : Blueprint) : Except RenderFlaw (List String) :=
  match b.kind with
  | .probeEvent payload emitter => probeEventLines b payload emitter
  | .changeEvent space path => changeEventLines b space path
  | .intervalJob handler => .ok (jobLines monitor b handler)
  | .observerAdapter payload handler => .ok (observerLines monitor b payload handler)
  | .predicate => predicateLines b
  | _ => .error (.unexpectedNested b.name)

end Watchtower.Rendering
