-- The JSON form of manifests, and the reading of it.
import Watchtower.Event.Codec
import Watchtower.Manifest.Basic

namespace Watchtower

open Json (Doc)
open Json.Doc

/-! ## Writing -/

/-- The form of a binding. -/
def Binding.toJson (b : Binding) : Json :=
  .obj [("exchange", .str b.exchange), ("routingKey", .str b.routingKey), ("queue", .str b.queue)]

/-- A field that is left out where there is no value. -/
def optionalField (name : String) (form : α → Json) : Option α → List (String × Json)
  | none => []
  | some value => [(name, form value)]

/-- The form of an event. -/
def EventEntry.toJson (e : EventEntry) : Json :=
  .obj ([("name", .str e.name), ("kind", .str e.kind)]
    ++ optionalField "payload" (fun kind : EventKind => .str kind.name) e.payload
    ++ optionalField "cron" .str e.cron
    ++ optionalField "binding" Binding.toJson e.binding
    ++ optionalField "variablePath" .str e.variablePath
    ++ [("filtered", .bool e.filtered)])

/-- The form of a handler. -/
def HandlerEntry.toJson (h : HandlerEntry) : Json :=
  .obj [("name", .str h.name), ("payload", .str h.payload.name), ("adapter", .str h.adapter)]

/-- The form of a monitor. -/
def MonitorEntry.toJson (m : MonitorEntry) : Json :=
  .obj ([("typeName", .str m.typeName)]
    ++ (if m.usings.isEmpty then [] else [("usings", .ofTexts m.usings)])
    ++ [("events", .arr (m.events.map EventEntry.toJson)),
      ("handlers", .arr (m.handlers.map HandlerEntry.toJson)),
      ("codeBlocks", .ofNat m.codeBlocks)])

/-- The form of a root namespace. -/
def SpaceEntry.toJson (s : SpaceEntry) : Json :=
  .obj [("typeName", .str s.typeName), ("exchange", .str s.exchange),
    ("variables", .obj s.vars)]

/-- The form of a manifest. -/
def Manifest.toJson (m : Manifest) : Json :=
  .obj [("version", .str m.version), ("generatedAt", .str m.generatedAt),
    ("compilerVersion", .str m.compilerVersion),
    ("monitors", .obj (m.monitors.map fun (name, entry) => (name, entry.toJson))),
    ("namespaces", .obj (m.spaces.map fun (name, entry) => (name, entry.toJson)))]

/-! ## Reading -/

/-- Reads a table: an object with any names. Of two entries with one name the later counts. -/
def table? (read : Doc → Option α) : Doc → Option (List (String × α))
  | .obj fields => do
    let entries ← fields.mapM fun (name, doc) => do return (← name, ← read doc)
    return Sorted.ofList entries
  | _ => none

/-- Reads a binding. -/
def Binding.ofDoc? (doc : Doc) : Option Binding := do
  let fields ← doc.record? ["exchange", "routingKey", "queue"]
  return ⟨← fields.get? "exchange" text?, ← fields.get? "routingKey" text?,
    ← fields.get? "queue" text?⟩

/-- An array has at least so many items, where the document is an array. -/
def hasItems (least : Nat) : Doc → Bool
  | .arr items => least ≤ items.length
  | _ => true

/-- Reads an event. In an array only the last field may be missing. -/
def EventEntry.ofDoc? (doc : Doc) : Option EventEntry := do
  let fields ← doc.record?
    ["name", "kind", "payload", "cron", "binding", "variablePath", "filtered"]
  guard (hasItems 6 doc)
  return {
    name := ← fields.get? "name" text?
    kind := ← fields.get? "kind" text?
    payload := ← fields.opt? "payload" EventKind.ofDoc?
    cron := ← fields.opt? "cron" text?
    binding := ← fields.opt? "binding" Binding.ofDoc?
    variablePath := ← fields.opt? "variablePath" text?
    filtered := ← fields.getD? "filtered" false bool? }

/-- Reads a handler. -/
def HandlerEntry.ofDoc? (doc : Doc) : Option HandlerEntry := do
  let fields ← doc.record? ["name", "payload", "adapter"]
  return ⟨← fields.get? "name" text?, ← fields.get? "payload" EventKind.ofDoc?,
    ← fields.get? "adapter" text?⟩

/-- Reads a monitor. -/
def MonitorEntry.ofDoc? (doc : Doc) : Option MonitorEntry := do
  let fields ← doc.record? ["typeName", "usings", "events", "handlers", "codeBlocks"]
  return {
    typeName := ← fields.get? "typeName" text?
    usings := ← fields.getD? "usings" [] (list? text?)
    events := ← fields.get? "events" (list? EventEntry.ofDoc?)
    handlers := ← fields.get? "handlers" (list? HandlerEntry.ofDoc?)
    codeBlocks := ← fields.get? "codeBlocks" word? }

/-- Reads a root namespace. Four containers are open around the value of a variable. -/
def SpaceEntry.ofDoc? (doc : Doc) : Option SpaceEntry := do
  let fields ← doc.record? ["typeName", "exchange", "variables"]
  return {
    typeName := ← fields.get? "typeName" text?
    exchange := ← fields.get? "exchange" text?
    vars := ← fields.get? "variables" (table? (Doc.value? (Json.maxDepth - 4))) }

/-- Reads a manifest. -/
def Manifest.ofDoc? (doc : Doc) : Option Manifest := do
  let fields ← doc.record?
    ["version", "generatedAt", "compilerVersion", "monitors", "namespaces"]
  return {
    version := ← fields.get? "version" text?
    generatedAt := ← fields.get? "generatedAt" text?
    compilerVersion := ← fields.get? "compilerVersion" text?
    monitors := ← fields.get? "monitors" (table? MonitorEntry.ofDoc?)
    spaces := ← fields.get? "namespaces" (table? SpaceEntry.ofDoc?) }

/-- Reads a manifest from text. -/
def Manifest.ofText? (text : String) : Option Manifest :=
  (Doc.ofText? text).bind Manifest.ofDoc?

end Watchtower
