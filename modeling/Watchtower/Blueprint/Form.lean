-- The JSON form of blueprints.
import Watchtower.Blueprint.Basic
import Watchtower.Source.Writer

namespace Watchtower

/-- An object with its kind. -/
def tagged (kind : String) (fields : List (String × Json)) : Json :=
  .obj (("kind", .str kind) :: fields)

/-- The form of a predicate. -/
def Predicate.toJson : Predicate → Json
  | .compare c => tagged "compare" [("operator", .str c.relation.name),
      ("threshold", .str c.threshold), ("percentage", .bool c.percentage)]
  | .joined connective left right => tagged "logical" [("operator", .str connective.name),
      ("left", left.toJson), ("right", right.toJson)]

/-- The form of an origin. -/
def CodeOrigin.toJson : CodeOrigin → Json
  | .block index => tagged "block" [("index", .ofNat index)]
  | .handler name => tagged "handler" [("name", .str name)]

/-- The name of a state. -/
def RunState.name : RunState → String
  | .paused => "Paused"
  | .running => "Running"

/-- The form of a filter. -/
def DeliveryFilter.toJson : DeliveryFilter → Json
  | .payload kind => tagged "payload" [("payload", .str kind.name)]
  | .path watched predicate =>
    tagged "variablePath" [("path", .str watched), ("predicate", .ofText? predicate)]

mutual

/-- The form of a statement. -/
def Stmt.toJson : Stmt → Json
  | .userCode origin source =>
    tagged "userCode" [("origin", origin.toJson), ("source", .str source)]
  | .callSelf method => tagged "callSelf" [("method", .str method)]
  | .callSuper method => tagged "callSuper" [("method", .str method)]
  | .callField field method =>
    tagged "callField" [("field", .str field), ("method", .str method)]
  | .returnIf state => tagged "returnIf" [("state", .str state.name)]
  | .guarded site body => tagged "guarded" [("site", .str site), ("body", .arr (Stmt.listJson body))]
  | .constructProxy field space =>
    tagged "constructProxy" [("field", .str field), ("namespace", .str space)]
  | .connectStore space exchange =>
    tagged "connectStore" [("namespace", .str space), ("exchange", .str exchange)]
  | .registerVariable name initializer writable =>
    tagged "registerVariable" [("qualified_name", .str name), ("initializer", initializer.toJson),
      ("writable", .bool writable)]
  | .openProbe routingKey => tagged "openProbe" [("routing_key", .str routingKey)]
  | .startConsumer exchange routingKey queue filter =>
    tagged "startConsumer" [("exchange", .str exchange), ("routing_key", .str routingKey),
      ("queue", .str queue), ("filter", filter.toJson)]
  | .dispatchTyped kind handler =>
    tagged "dispatchTyped" [("payload", .str kind.name), ("handler", .str handler)]
  | .dispatchInterval handler => tagged "dispatchInterval" [("handler", .str handler)]
  | .getVariable name => tagged "getVariable" [("qualified_name", .str name)]
  | .setVariable name => tagged "setVariable" [("qualified_name", .str name)]
  | .returnField field => tagged "returnField" [("field", .str field)]
  | .returnPredicate predicate => tagged "returnPredicate" [("expr", predicate.toJson)]
  | .returnConst value => tagged "returnConst" [("value", .bool value)]

/-- The forms of statements. -/
def Stmt.listJson : List Stmt → List Json
  | [] => []
  | stmt :: rest => stmt.toJson :: Stmt.listJson rest

end

/-- The form of the type of a field. -/
def FieldType.toJson : FieldType → Json
  | .value declared => tagged "value" [("declared", .ofText? declared)]
  | .periodic => tagged "periodic" []
  | .event type => tagged "event" [("type_name", .str type)]
  | .handler type => tagged "handler" [("type_name", .str type)]
  | .proxy space => tagged "proxy" [("namespace", .str space)]
  | .childProxy type => tagged "childProxy" [("type_name", .str type)]
  | .threshold => tagged "threshold" []
  | .predicate type => tagged "predicate" [("type_name", .str type)]

/-- The form of what a field begins with. -/
def FieldInit.toJson : FieldInit → Json
  | .expr value => tagged "expr" [("expr", value.toJson)]
  | .cron expression => tagged "cron" [("expression", .str expression)]
  | .construct type => tagged "construct" [("type_name", .str type)]
  | .decimal value => tagged "decimal" [("value", .str value.text)]

/-- The form of a field. -/
def Field.toJson (f : Field) : Json :=
  .obj [("name", .str f.name), ("ty", f.type.toJson), ("constant", .bool f.constant),
    ("is_static", .bool f.shared), ("init", (f.init.map FieldInit.toJson).getD .null)]

/-- The form of a method. -/
def Method.toJson (m : Method) : Json :=
  .obj [("name", .str m.name),
    ("params", .arr (m.params.map fun (name, type) =>
      .obj [("name", .str name), ("ty", .str type)])),
    ("returns", .ofText? m.returns), ("overrides", .bool m.overrides),
    ("propagates", .bool m.propagates), ("body", .arr (Stmt.listJson m.body))]

/-- The form of a kind. -/
def BlueprintKind.toJson : BlueprintKind → Json
  | .monitor => tagged "monitor" []
  | .namespaceProxy root path =>
    tagged "namespaceProxy" [("root", .str root), ("path", .str path)]
  | .namespaceStorage => tagged "namespaceStorage" []
  | .probeEvent payload emitter =>
    tagged "probeEvent" [("payload", .str payload.name), ("emitter", .str emitter)]
  | .changeEvent space path =>
    tagged "changeEvent" [("namespace", .str space), ("path", .str path)]
  | .intervalJob handler => tagged "intervalJob" [("handler", .str handler)]
  | .observerAdapter payload handler =>
    tagged "observerAdapter" [("payload", .str payload.name), ("handler", .str handler)]
  | .predicate => tagged "predicate" []

mutual

/-- The form of a blueprint. -/
def Blueprint.toJson : Blueprint → Json
  | ⟨name, qualifiedName, kind, doc, fields, constructor, methods, nested⟩ =>
    .obj [("name", .str name), ("qualified_name", .str qualifiedName), ("kind", kind.toJson),
      ("doc", .ofText? doc), ("fields", .arr (fields.map Field.toJson)),
      ("constructor", .arr (Stmt.listJson constructor)),
      ("methods", .arr (methods.map Method.toJson)), ("nested", .arr (Blueprint.listJson nested))]

/-- The forms of blueprints. -/
def Blueprint.listJson : List Blueprint → List Json
  | [] => []
  | b :: rest => b.toJson :: Blueprint.listJson rest

end

end Watchtower
