-- The JSON form of source trees. Every field is written, with null for what is not there.
import Watchtower.Source.Declaration

namespace Watchtower.Source

/-- The form of a literal. -/
def Literal.toJson : Literal → Json
  | .number text => .obj [("number", .str text)]
  | .string text => .obj [("string", .str text)]
  | .bool value => .obj [("bool", .bool value)]
  | .null => .str "null"

/-- The form of an expression. -/
def Expr.toJson : Expr → Json
  | .literal value => .obj [("kind", .str "literal"), ("value", value.toJson)]
  | .root feature declaredClass =>
    .obj [("kind", .str "featureCall"), ("receiver", .null), ("feature", .str feature),
      ("declaredClass", .ofText? declaredClass)]
  | .member receiver feature declaredClass =>
    .obj [("kind", .str "featureCall"), ("receiver", receiver.toJson), ("feature", .str feature),
      ("declaredClass", .ofText? declaredClass)]
  | .source text => .obj [("kind", .str "source"), ("text", .str text)]

/-- The name of a relation. -/
def Relation.name : Relation → String
  | .above => "ABOVE"
  | .below => "BELOW"
  | .equal => "EQUAL"

/-- The name of a connective. -/
def Connective.name : Connective → String
  | .and => "AND"
  | .or => "OR"

/-- The form of a specifier. -/
def Specifier.toJson : Specifier → Json
  | .leaf relation value percentage =>
    .obj [("kind", .str "relational"), ("operator", .str relation.name),
      ("value", value.toJson), ("percentage", .bool percentage)]
  | .node connective left right =>
    .obj [("kind", .str "logical"), ("operator", .str connective.name),
      ("left", left.toJson), ("right", right.toJson)]

/-- The form of a span. -/
def Span.toJson (s : Span) : Json :=
  .obj [("file", .str s.file), ("startLine", .ofNat s.startLine), ("startCol", .ofNat s.startCol),
    ("endLine", .ofNat s.endLine), ("endCol", .ofNat s.endCol)]

/-- The form of an optional span. -/
def Span.optionJson : Option Span → Json
  | none => .null
  | some s => s.toJson

/-- The fields of a variable. -/
def Variable.fields (v : Variable) : List (String × Json) :=
  [("name", .str v.name), ("typ", .ofText? v.type), ("initializer", v.initializer.toJson),
    ("writable", .bool v.writable)]

mutual

/-- The form of a statement of a namespace. -/
def SpaceItem.toJson : SpaceItem → Json
  | .variable decl => .obj (("kind", .str "variable") :: decl.fields)
  | .space name body span =>
    .obj [("kind", .str "namespace"), ("name", .str name), ("body", .arr (SpaceItem.listJson body)),
      ("span", Span.optionJson span)]

/-- The forms of the statements of a namespace. -/
def SpaceItem.listJson : List SpaceItem → List Json
  | [] => []
  | item :: rest => item.toJson :: SpaceItem.listJson rest

end

/-- The name of an occurrence. -/
def Occurrence.name : Occurrence → String
  | .invoke => "INVOKE"
  | .returned => "RETURN"
  | .exception => "EXCEPTION"
  | .timeLapse => "TIMELAPSE"
  | .change => "CHANGE"

/-- The form of an emitter. -/
def Emitter.toJson : Emitter → Json
  | .periodic cron => .obj [("kind", .str "periodic"), ("cron", .str cron)]
  | .typed occurrence emitter specifier =>
    .obj [("kind", .str "typed"), ("eventKind", .str occurrence.name), ("emitter", emitter.toJson),
      ("specifier", (specifier.map Specifier.toJson).getD .null)]

/-- The form of a statement of a monitor. -/
def MonitorItem.toJson : MonitorItem → Json
  | .variable decl => .obj (("kind", .str "variable") :: decl.fields)
  | .event decl =>
    .obj [("kind", .str "event"), ("name", .str decl.name), ("emitter", decl.emitter.toJson),
      ("span", Span.optionJson decl.span)]
  | .handler decl =>
    .obj [("kind", .str "handler"), ("name", .str decl.name),
      ("param", .obj [("name", .str decl.paramName), ("typ", .str decl.paramType)]),
      ("body", .obj [("source", .str decl.source)]), ("doc", .ofText? decl.doc),
      ("span", Span.optionJson decl.span)]
  | .code source => .obj [("kind", .str "code"), ("source", .str source)]

/-- The form of a declaration. -/
def Declaration.toJson : Declaration → Json
  | .monitor decl =>
    .obj [("kind", .str "monitor"), ("name", .str decl.name),
      ("usings", .arr (decl.usings.map fun name => .obj [("name", .str name)])),
      ("body", .arr (decl.body.map MonitorItem.toJson)), ("span", Span.optionJson decl.span)]
  | .space decl =>
    .obj [("kind", .str "namespace"), ("name", .str decl.name),
      ("body", .arr (SpaceItem.listJson decl.body)), ("span", Span.optionJson decl.span)]

/-- The form of a unit. -/
def SourceUnit.toJson (unit : SourceUnit) : Json :=
  .obj [("package", .ofText? unit.package),
    ("declarations", .arr (unit.declarations.map Declaration.toJson))]

end Watchtower.Source
