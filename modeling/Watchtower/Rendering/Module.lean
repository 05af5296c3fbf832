-- Monitors and root namespaces rendered as modules of code.
import Watchtower.Rendering.Nested

namespace Watchtower.Rendering

open Text (quoted)

/-- The line under the title of every module. -/
def allowLine : String :=
  "#![allow(dead_code, unused_imports, unused_variables, clippy::all)]"

/-! ## Monitors -/

/-- The namespaces that all instances of a monitor share. -/
def sharedSpaces (b : Blueprint) : List String :=
  b.fields.filterMap fun f =>
    match f.type with
    | .proxy space => if f.shared then some space else none
    | _ => none

/-- The line that imports the proxy of a namespace. -/
def importLine (space : String) : String :=
  "use super::super::namespaces::" ++ Naming.snake space ++ "::" ++ Naming.pascal space ++ ";"

/-- The lines above the struct of a monitor. -/
def monitorHead (b : Blueprint) : List String :=
  let shared := sharedSpaces b
  ["//! Generated by vigil from monitor `" ++ b.qualifiedName ++ "`. Do not edit.", allowLine, "",
    "use std::sync::\x7bArc, OnceLock, RwLock, Weak\x7d;", "", "use vigil_runtime::prelude::*;"]
    ++ shared.map importLine ++ [""]
    ++ shared.map (fun space => "static " ++ Naming.screaming space ++ ": OnceLock<Arc<"
      ++ Naming.pascal space ++ ">> = OnceLock::new();")
    ++ if shared.isEmpty then [] else [""]

/-- The lines that give access to a shared namespace. -/
def spaceAccessor (space : String) : List String := [
  "",
  "    /// Proxy of namespace `" ++ space ++ "`, bound by `initialize`.",
  "    pub fn " ++ Naming.ident space ++ "(&self) -> Result<Arc<" ++ Naming.pascal space ++ ">> \x7b",
  "        " ++ Naming.screaming space ++ ".get().cloned().ok_or_else(|| Error::Disconnected("
    ++ quoted space ++ ".to_string()))",
  "    \x7d"]

/-- The lines of the struct and the methods of a monitor. -/
def monitorBody (b : Blueprint) : Except RenderFlaw (List String) := do
  let own := b.fields.filter (!·.shared)
  let inits ← initLines b own
  let body ← bodyLines { receiver := "monitor", context := "context" } 2 b.constructor
  let methods ← (b.methods.filter (!·.overrides)).mapM methodLines
  return ((b.doc.toList.map ("/// " ++ ·))
    ++ ["pub struct " ++ b.name ++ " \x7b", "    core: MonitorCore,", "    context: RuntimeContext,"]
    ++ fieldLines "pub " own ++ ["\x7d", ""])
    ++ (["impl " ++ b.name ++ " \x7b", "    pub fn new(context: &RuntimeContext) -> Arc<Self> \x7b",
      "        let monitor = Arc::new_cyclic(|this: &Weak<Self>| Self \x7b",
      "            core: MonitorCore::new(" ++ quoted b.qualifiedName ++ "),",
      "            context: context.clone(),"] ++ inits ++ ["        \x7d);"])
    ++ body ++ ["        monitor", "    \x7d"]
    ++ (sharedSpaces b).flatMap spaceAccessor
    ++ methods.flatMap ("" :: ·) ++ ["\x7d", ""]

/-- The lines of the method by which a monitor is paused or resumed. -/
def transitionLines (b : Blueprint) (name : String) : Except RenderFlaw (List String) := do
  match b.method? name with
  | none => .error (.noMethod b.qualifiedName name)
  | some m =>
    let body ← bodyLines { receiver := "self", context := "self.context" } 2 m.body
    return ["    fn " ++ name ++ "(&self) \x7b",
      "        let _transition = self.core.transition();"] ++ body ++ ["    \x7d", ""]

/-- The field is an event. -/
def isEvent (f : Field) : Bool :=
  match f.type with
  | .periodic => true
  | .event _ => true
  | _ => false

/-- The lines by which a monitor lists its events. -/
def eventsLines (b : Blueprint) : List String :=
  ["impl Monitor for " ++ b.name ++ " \x7b", "    fn name(&self) -> &str \x7b",
    "        self.core.name()", "    \x7d", "",
    "    fn events(&self) -> Vec<Arc<dyn MonitorEvent>> \x7b", "        vec!["]
    ++ (b.fields.filter isEvent).map (fun f =>
      "            self." ++ Naming.ident f.name ++ ".clone() as Arc<dyn MonitorEvent>,")
    ++ ["        ]", "    \x7d", "\x7d"]

/-- The lines of the module of a monitor. -/
def monitorLines (b : Blueprint) : Except RenderFlaw (List String) := do
  if b.kind ≠ .monitor then .error (.notMonitor b.qualifiedName)
  let body ← monitorBody b
  let pause ← transitionLines b "pause"
  let resume ← transitionLines b "resume"
  let nested ← b.nested.mapM (nestedLines b.name)
  return monitorHead b ++ body ++ ["impl Pausable for " ++ b.name ++ " \x7b"] ++ pause ++ resume
    ++ ["    fn is_paused(&self) -> bool \x7b", "        self.core.is_paused()", "    \x7d", "\x7d", ""]
    ++ eventsLines b ++ nested.flatMap ("" :: ·)

/-! ## Namespaces -/

/-- The line that registers a variable. -/
def variableLine (storage : String) : Stmt → Except RenderFlaw String
  | .registerVariable name initializer writable =>
    .ok ("            (" ++ quoted name ++ ".to_string(), " ++ initializer.valueText ++ ", "
      ++ (if writable then "true" else "false") ++ "),")
  | _ => .error (.unexpectedStatement storage)

/-- The lines of the storage of a namespace. -/
def storageLines (b : Blueprint) : Except RenderFlaw (List String) := do
  let vars ← b.constructor.mapM (variableLine b.name)
  return ["/// Variables of the namespace tree by qualified name.", "pub struct " ++ b.name ++ ";",
      "", "impl " ++ b.name ++ " \x7b", "    pub fn variables() -> Vec<(String, Value, bool)> \x7b",
      "        vec!["]
    ++ vars ++ ["        ]", "    \x7d", "\x7d"]

/-- Where the root of a namespace connects to the store: the site of the guard around it, and
the exchange. -/
def connection? (constructor : List Stmt) : Option (String × String) :=
  constructor.findSome? fun
    | .guarded site body => body.findSome? fun
      | .connectStore _ exchange => some (site, exchange)
      | _ => none
    | _ => none

/-- The lines at the beginning of the constructor of a proxy. -/
def proxyConstructor (b : Blueprint) (path : String) :
    Option Blueprint → Except RenderFlaw (List String)
  | none => .ok ["    pub fn new(root: &Weak<RootConnection>) -> Arc<Self> \x7b",
      "        Arc::new(Self \x7b", "            root: root.clone(),"]
  | some storage =>
    match connection? b.constructor with
    | none => .error (.neverConnects b.qualifiedName)
    | some (site, exchange) => .ok [
        "    pub fn new(context: &RuntimeContext) -> Arc<Self> \x7b",
        "        let connection = guarded(context.policy.as_ref(), " ++ quoted site ++ ", || \x7b",
        "            let connection = RootConnection::new(" ++ quoted path ++ ", "
          ++ quoted exchange ++ ", context.store.clone(), context.bus.clone());",
        "            connection.register_all(&" ++ storage.name ++ "::variables())?;",
        "            Ok(connection)",
        "        \x7d);",
        "        let weak = connection.as_ref().map(Arc::downgrade).unwrap_or_default();",
        "        let root = &weak;",
        "        Arc::new(Self \x7b",
        "            connection,"]

/-- The lines of a proxy without those of its children. A root has a storage. -/
def proxyBody (b : Blueprint) (path : String) (storage : Option Blueprint) :
    Except RenderFlaw (List String) := do
  let constructor ← proxyConstructor b path storage
  let inits ← initLines b b.fields
  let methods ← b.methods.mapM methodLines
  let link := if storage.isSome then "    connection: Option<Arc<RootConnection>>,"
    else "    root: Weak<RootConnection>,"
  let connection := if storage.isSome then "self.connection.clone()" else "self.root.upgrade()"
  return ["/// " ++ b.doc.getD ("Namespace `" ++ path ++ "`."), "pub struct " ++ b.name ++ " \x7b",
      link]
    ++ fieldLines "" b.fields ++ ["\x7d", "", "impl " ++ b.name ++ " \x7b"] ++ constructor ++ inits
    ++ ["        \x7d)", "    \x7d", "", "    fn connection(&self) -> Result<Arc<RootConnection>> \x7b",
      "        " ++ connection ++ ".ok_or_else(|| Error::Disconnected(" ++ quoted path
        ++ ".to_string()))",
      "    \x7d"]
    ++ methods.flatMap ("" :: ·) ++ ["\x7d"]

mutual

/-- The lines of a proxy and its children. A root has a storage. -/
def proxyLines (storage : Option Blueprint) : Blueprint → Except RenderFlaw (List String)
  | ⟨name, qualifiedName, kind, doc, fields, constructor, methods, nested⟩ =>
    match kind with
    | .namespaceProxy _ path => do
      let body ← proxyBody ⟨name, qualifiedName, kind, doc, fields, constructor, methods, nested⟩
        path storage
      let children ← childLines nested
      return body ++ children
    | _ => .error (.notProxy name)

/-- The lines of the proxies among some blueprints. -/
def childLines : List Blueprint → Except RenderFlaw (List String)
  | [] => .ok []
  | b :: rest => do
    let first ← match b.kind with
      | .namespaceProxy .. => (proxyLines none b).map ("" :: ·)
      | _ => .ok []
    let others ← childLines rest
    return first ++ others

end

/-- The lines of the module of a root namespace. -/
def spaceLines (b : Blueprint) : Except RenderFlaw (List String) := do
  match b.kind with
  | .namespaceProxy root _ =>
    match b.nested.find? (·.kind == .namespaceStorage) with
    | none => .error (.noStorage b.qualifiedName)
    | some storage =>
      let vars ← storageLines storage
      let proxy ← proxyLines (some storage) b
      return ["//! Generated by vigil from namespace `" ++ root ++ "`. Do not edit.", allowLine, "",
          "use std::sync::\x7bArc, Weak\x7d;", "", "use vigil_runtime::prelude::*;", ""]
        ++ vars ++ [""] ++ proxy
  | _ => .error (.notNamespace b.qualifiedName)

end Watchtower.Rendering
