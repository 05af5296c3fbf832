-- Reading source trees from JSON text. Names that are not known are passed over at the top of
-- a unit and of a span; below a declaration everything has to be a sound value.
import Watchtower.Json.Record
import Watchtower.Source.Writer

namespace Watchtower.Source

open Json (Doc)
open Json.Doc

/-! ## Expressions and specifiers -/

/-- Reads a literal: an object with one field, or the name of the literal without value. -/
def Literal.ofDoc? : Doc → Option Literal
  | .obj [(some "number", .str (some text))] => some (.number text)
  | .obj [(some "string", .str (some text))] => some (.string text)
  | .obj [(some "bool", .bool value)] => some (.bool value)
  | doc => (plainChoice? ["null"] doc).map fun _ => .null

/-- Reads an expression that is nested at most `depth` deep. -/
def Expr.ofDoc? (byIndex : Bool) : Nat → Doc → Option Expr
  | 0, _ => none
  | depth + 1, doc => do
    let (tag, fields) ← choice? byIndex
      [("literal", ["value"]), ("featureCall", ["receiver", "feature", "declaredClass"]),
        ("source", ["text"])] doc
    match tag with
    | "literal" => return .literal (← fields.get? "value" Literal.ofDoc?)
    | "featureCall" =>
      let receiver ← fields.opt? "receiver" (Expr.ofDoc? true depth)
      let feature ← fields.get? "feature" text?
      let declaredClass ← fields.opt? "declaredClass" text?
      match receiver with
      | none => return .root feature declaredClass
      | some receiver => return .member receiver feature declaredClass
    | _ => return .source (← fields.get? "text" text?)

/-- The relation with this name. -/
def Relation.ofName? (name : String) : Option Relation :=
  [Relation.above, .below, .equal].find? (·.name == name)

/-- The connective with this name. -/
def Connective.ofName? (name : String) : Option Connective :=
  [Connective.and, .or].find? (·.name == name)

/-- Reads a specifier that is nested at most `depth` deep. -/
def Specifier.ofDoc? (byIndex : Bool) : Nat → Doc → Option Specifier
  | 0, _ => none
  | depth + 1, doc => do
    let (tag, fields) ← choice? byIndex
      [("relational", ["operator", "value", "percentage"]),
        ("logical", ["operator", "left", "right"])] doc
    match tag with
    | "relational" =>
      let relation ← fields.get? "operator" (plainChoice? ["ABOVE", "BELOW", "EQUAL"])
      let value ← fields.get? "value" (Expr.ofDoc? true depth)
      let percentage ← fields.getD? "percentage" false bool?
      return .leaf (← Relation.ofName? relation) value percentage
    | _ =>
      let connective ← fields.get? "operator" (plainChoice? ["AND", "OR"])
      let left ← fields.get? "left" (Specifier.ofDoc? true depth)
      let right ← fields.get? "right" (Specifier.ofDoc? true depth)
      return .node (← Connective.ofName? connective) left right

/-! ## Declarations -/

/-- Reads a span. -/
def Span.ofDoc? (doc : Doc) : Option Span := do
  let fields ← doc.record? ["file", "startLine", "startCol", "endLine", "endCol"]
  let file ← fields.getD? "file" "" text?
  let startLine ← fields.get? "startLine" word?
  let startCol ← fields.get? "startCol" word?
  let endLine ← fields.getD? "endLine" 0 word?
  let endCol ← fields.getD? "endCol" 0 word?
  return ⟨file, startLine, startCol, endLine, endCol⟩

/-- The names of the fields of a variable. -/
def Variable.fieldNames : List String := ["name", "typ", "initializer", "writable"]

/-- Reads a variable from its fields. -/
def Variable.ofFields? (depth : Nat) (fields : Fields) : Option Variable := do
  let name ← fields.get? "name" text?
  let type ← fields.opt? "typ" text?
  let initializer ← fields.get? "initializer" (Expr.ofDoc? true depth)
  let writable ← fields.getD? "writable" false bool?
  return ⟨name, type, initializer, writable⟩

/-- The names of the fields of a namespace. -/
def Namespace.fieldNames : List String := ["name", "body", "span"]

/-- Reads a statement of a namespace that is nested at most `depth` deep. -/
def SpaceItem.ofDoc? : Nat → Doc → Option SpaceItem
  | 0, _ => none
  | depth + 1, doc => do
    let (tag, fields) ← choice? true
      [("variable", Variable.fieldNames), ("namespace", Namespace.fieldNames)] doc
    match tag with
    | "variable" => return .variable (← Variable.ofFields? depth fields)
    | _ =>
      let name ← fields.get? "name" text?
      let body ← fields.getD? "body" [] (list? (SpaceItem.ofDoc? depth))
      let span ← fields.opt? "span" Span.ofDoc?
      return .space name body span

/-- The occurrence with this name. -/
def Occurrence.ofName? (name : String) : Option Occurrence :=
  [Occurrence.invoke, .returned, .exception, .timeLapse, .change].find? (·.name == name)

/-- Reads an emitter that is nested at most `depth` deep. -/
def Emitter.ofDoc? (depth : Nat) (doc : Doc) : Option Emitter := do
  let (tag, fields) ← choice? true
    [("periodic", ["cron"]), ("typed", ["eventKind", "emitter", "specifier"])] doc
  match tag with
  | "periodic" => return .periodic (← fields.get? "cron" text?)
  | _ =>
    let occurrence ← fields.get? "eventKind"
      (plainChoice? ["INVOKE", "RETURN", "EXCEPTION", "TIMELAPSE", "CHANGE"])
    let emitter ← fields.get? "emitter" (Expr.ofDoc? true depth)
    let specifier ← fields.opt? "specifier" (Specifier.ofDoc? true depth)
    return .typed (← Occurrence.ofName? occurrence) emitter specifier

/-- Reads the parameter of a handler: its name and its type. -/
def HandlerDecl.param? (doc : Doc) : Option (String × String) := do
  let fields ← doc.record? ["name", "typ"]
  return (← fields.get? "name" text?, ← fields.get? "typ" text?)

/-- Reads a block of code. -/
def codeBlock? (doc : Doc) : Option String := do
  let fields ← doc.record? ["source"]
  fields.get? "source" text?

/-- Reads a statement of a monitor that is nested at most `depth` deep. -/
def MonitorItem.ofDoc? (depth : Nat) (doc : Doc) : Option MonitorItem := do
  let (tag, fields) ← choice? true
    [("variable", Variable.fieldNames), ("event", ["name", "emitter", "span"]),
      ("handler", ["name", "param", "body", "doc", "span"]), ("code", ["source"])] doc
  match tag with
  | "variable" => return .variable (← Variable.ofFields? depth fields)
  | "event" =>
    let name ← fields.get? "name" text?
    let emitter ← fields.get? "emitter" (Emitter.ofDoc? depth)
    let span ← fields.opt? "span" Span.ofDoc?
    return .event ⟨name, emitter, span⟩
  | "handler" =>
    let name ← fields.get? "name" text?
    let (paramName, paramType) ← fields.get? "param" HandlerDecl.param?
    let source ← fields.get? "body" codeBlock?
    let doc ← fields.opt? "doc" text?
    let span ← fields.opt? "span" Span.ofDoc?
    return .handler ⟨name, paramName, paramType, source, doc, span⟩
  | _ => return .code (← fields.get? "source" text?)

/-- Reads the reference to a root namespace. -/
def using? (doc : Doc) : Option String := do
  let fields ← doc.record? ["name"]
  fields.get? "name" text?

/-- Reads a declaration that is nested at most `depth` deep. -/
def Declaration.ofDoc? (depth : Nat) (doc : Doc) : Option Declaration := do
  guard (doc.isSound depth)
  let (tag, fields) ← choice? false
    [("monitor", ["name", "usings", "body", "span"]), ("namespace", Namespace.fieldNames)] doc
  let name ← fields.get? "name" text?
  match tag with
  | "monitor" =>
    let usings ← fields.getD? "usings" [] (list? using?)
    let body ← fields.getD? "body" [] (list? (MonitorItem.ofDoc? depth))
    let span ← fields.opt? "span" Span.ofDoc?
    return .monitor ⟨name, usings, body, span⟩
  | _ =>
    let body ← fields.getD? "body" [] (list? (SpaceItem.ofDoc? depth))
    let span ← fields.opt? "span" Span.ofDoc?
    return .space ⟨name, body, span⟩

/-- Reads a unit. Two containers are open around each declaration. -/
def SourceUnit.ofDoc? (doc : Doc) : Option SourceUnit := do
  let fields ← doc.record? ["package", "declarations"]
  let package ← fields.opt? "package" text?
  let declarations ← fields.get? "declarations" (list? (Declaration.ofDoc? (Json.maxDepth - 2)))
  return ⟨package, declarations⟩

/-! ## Text -/

/-- Reads a unit from text. -/
def SourceUnit.ofText? (text : String) : Option SourceUnit :=
  (Doc.ofText? text).bind SourceUnit.ofDoc?

/-- Reads a span from text. -/
def Span.ofText? (text : String) : Option Span :=
  (Doc.ofText? text).bind Span.ofDoc?

/-- Reads with `read` from text that has to be a sound value. -/
def soundText? (read : Doc → Option α) (text : String) : Option α := do
  let doc ← Doc.ofText? text
  guard (doc.isSound Json.maxDepth)
  read doc

/-- Reads an expression from text. -/
def Expr.ofText? : String → Option Expr := soundText? (Expr.ofDoc? false Json.maxDepth)

/-- Reads a specifier from text. -/
def Specifier.ofText? : String → Option Specifier :=
  soundText? (Specifier.ofDoc? false Json.maxDepth)

end Watchtower.Source
