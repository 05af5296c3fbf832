-- The outline of the parts of a blueprint on one line, as messages show them: the name of the
-- part, and its fields in braces.
import Watchtower.Blueprint.Basic

namespace Watchtower

namespace Outline

/-- The outline of a part with named fields. -/
def withFields (name : String) (fields : List (String × String)) : String :=
  name ++ " \x7b " ++ Text.join ", " (fields.map fun (key, value) => key ++ ": " ++ value)
    ++ " \x7d"

/-- The outline of a truth value. -/
def ofBool (b : Bool) : String :=
  if b then "true" else "false"

end Outline

open Outline

/-- The outline of a literal. -/
def Source.Literal.outline : Source.Literal → String
  | .number text => "Number(" ++ Text.quoted text ++ ")"
  | .string text => "String(" ++ Text.quoted text ++ ")"
  | .bool b => "Bool(" ++ ofBool b ++ ")"
  | .null => "Null"

/-- The outline of an expression. -/
def Source.Expr.outline : Source.Expr → String
  | .literal value => withFields "Literal" [("value", value.outline)]
  | .root feature declaredClass =>
    withFields "FeatureCall" [("receiver", "None"), ("feature", Text.quoted feature),
      ("declared_class", Text.quotedOption declaredClass)]
  | .member receiver feature declaredClass =>
    withFields "FeatureCall" [("receiver", "Some(" ++ receiver.outline ++ ")"),
      ("feature", Text.quoted feature), ("declared_class", Text.quotedOption declaredClass)]
  | .source text => withFields "Source" [("text", Text.quoted text)]

/-- The outline of a relation. -/
def Source.Relation.outline : Source.Relation → String
  | .above => "Above"
  | .below => "Below"
  | .equal => "Equal"

/-- The outline of a connective. -/
def Source.Connective.outline : Source.Connective → String
  | .and => "And"
  | .or => "Or"

/-- The outline of a predicate. -/
def Predicate.outline : Predicate → String
  | .compare c =>
    withFields "Compare" [("operator", c.relation.outline), ("threshold", Text.quoted c.threshold),
      ("percentage", ofBool c.percentage)]
  | .joined connective left right =>
    withFields "Logical" [("operator", connective.outline), ("left", left.outline),
      ("right", right.outline)]

/-- The outline of the origin of user code. -/
def CodeOrigin.outline : CodeOrigin → String
  | .block index => withFields "Block" [("index", toString index)]
  | .handler name => withFields "Handler" [("name", Text.quoted name)]

/-- The outline of a state. -/
def RunState.outline : RunState → String
  | .paused => "Paused"
  | .running => "Running"

/-- The outline of a filter. -/
def DeliveryFilter.outline : DeliveryFilter → String
  | .payload kind => withFields "Payload" [("payload", kind.name)]
  | .path name predicate =>
    withFields "VariablePath" [("path", Text.quoted name),
      ("predicate", Text.quotedOption predicate)]

mutual

/-- The outline of a statement. -/
def Stmt.outline : Stmt → String
  | .userCode origin source =>
    withFields "UserCode" [("origin", origin.outline), ("source", Text.quoted source)]
  | .callSelf method => withFields "CallSelf" [("method", Text.quoted method)]
  | .callSuper method => withFields "CallSuper" [("method", Text.quoted method)]
  | .callField field method =>
    withFields "CallField" [("field", Text.quoted field), ("method", Text.quoted method)]
  | .returnIf state => withFields "ReturnIf" [("state", state.outline)]
  | .guarded site body =>
    withFields "Guarded" [("site", Text.quoted site),
      ("body", "[" ++ Text.join ", " (Stmt.outlines body) ++ "]")]
  | .constructProxy field space =>
    withFields "ConstructProxy" [("field", Text.quoted field), ("namespace", Text.quoted space)]
  | .connectStore space exchange =>
    withFields "ConnectStore" [("namespace", Text.quoted space), ("exchange", Text.quoted exchange)]
  | .registerVariable name initializer writable =>
    withFields "RegisterVariable" [("qualified_name", Text.quoted name),
      ("initializer", initializer.outline), ("writable", ofBool writable)]
  | .openProbe routingKey => withFields "OpenProbe" [("routing_key", Text.quoted routingKey)]
  | .startConsumer exchange routingKey queue filter =>
    withFields "StartConsumer" [("exchange", Text.quoted exchange),
      ("routing_key", Text.quoted routingKey), ("queue", Text.quoted queue),
      ("filter", filter.outline)]
  | .dispatchTyped kind handler =>
    withFields "DispatchTyped" [("payload", kind.name), ("handler", Text.quoted handler)]
  | .dispatchInterval handler => withFields "DispatchInterval" [("handler", Text.quoted handler)]
  | .getVariable name => withFields "GetVariable" [("qualified_name", Text.quoted name)]
  | .setVariable name => withFields "SetVariable" [("qualified_name", Text.quoted name)]
  | .returnField field => withFields "ReturnField" [("field", Text.quoted field)]
  | .returnPredicate predicate => withFields "ReturnPredicate" [("expr", predicate.outline)]
  | .returnConst value => withFields "ReturnConst" [("value", ofBool value)]

/-- The outlines of some statements. -/
def Stmt.outlines : List Stmt → List String
  | [] => []
  | stmt :: rest => stmt.outline :: Stmt.outlines rest

end

/-- The outline of the type of a field. -/
def FieldType.outline : FieldType → String
  | .value declared => withFields "Value" [("declared", Text.quotedOption declared)]
  | .periodic => "Periodic"
  | .event type => withFields "Event" [("type_name", Text.quoted type)]
  | .handler type => withFields "Handler" [("type_name", Text.quoted type)]
  | .proxy space => withFields "Proxy" [("namespace", Text.quoted space)]
  | .childProxy type => withFields "ChildProxy" [("type_name", Text.quoted type)]
  | .threshold => "Threshold"
  | .predicate type => withFields "Predicate" [("type_name", Text.quoted type)]

/-- The outline of what a blueprint stands for. -/
def BlueprintKind.outline : BlueprintKind → String
  | .monitor => "Monitor"
  | .namespaceProxy root path =>
    withFields "NamespaceProxy" [("root", Text.quoted root), ("path", Text.quoted path)]
  | .namespaceStorage => "NamespaceStorage"
  | .probeEvent kind emitter =>
    withFields "ProbeEvent" [("payload", kind.name), ("emitter", Text.quoted emitter)]
  | .changeEvent space path =>
    withFields "ChangeEvent" [("namespace", Text.quoted space), ("path", Text.quoted path)]
  | .intervalJob handler => withFields "IntervalJob" [("handler", Text.quoted handler)]
  | .observerAdapter kind handler =>
    withFields "ObserverAdapter" [("payload", kind.name), ("handler", Text.quoted handler)]
  | .predicate => "Predicate"

end Watchtower
