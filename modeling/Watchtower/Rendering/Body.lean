-- Statements rendered as lines of code.
import Watchtower.Blueprint.Basic
import Watchtower.Naming
import Watchtower.Rejection

namespace Watchtower.Rendering

open Text (quoted)

/-- The names that a body is rendered with. -/
structure BodyNames where
  /-- The instance at hand. -/
  receiver : String
  /-- The context at hand. -/
  context : String
  /-- The change that a predicate reads. -/
  event : String := "event"

/-- A line at a level of indentation. A line without text has no indentation. -/
def line (indent : Nat) (text : String) : String :=
  if text.isEmpty then "" else Text.times indent "    " ++ text

/-- The lines of a piece of user code. -/
def userLines (indent : Nat) (source : String) : List String :=
  (Text.lines source).map fun text => line indent (Text.trimEnd text)

/-- The call of the core that stands for a call of the base. -/
def baseCall (method : String) : Except RenderFlaw String :=
  if method = "pause" then .ok "set_paused"
  else if method = "resume" then .ok "set_running"
  else .error (.baseCall method)

mutual

/-- The lines of a statement. -/
def stmtLines (names : BodyNames) (indent : Nat) : Stmt → Except RenderFlaw (List String)
  | .userCode _ source => .ok (userLines indent source)
  | .callSelf method => .ok [line indent (names.receiver ++ "." ++ Naming.ident method ++ "()?;")]
  | .callSuper method => do
    return [line indent (names.receiver ++ ".core." ++ (← baseCall method) ++ "();")]
  | .callField field method =>
    .ok [line indent
      (names.receiver ++ "." ++ Naming.ident field ++ "." ++ Naming.ident method ++ "();")]
  | .returnIf state =>
    let condition := match state with
      | .paused => names.receiver ++ ".core.is_paused()"
      | .running => "!" ++ names.receiver ++ ".core.is_paused()"
    .ok [line indent ("if " ++ condition ++ " \x7b"), line (indent + 1) "return;",
      line indent "\x7d"]
  | .guarded site body => do
    let inner ← bodyLines names (indent + 1) body
    return line indent
        ("guarded(" ++ names.context ++ ".policy.as_ref(), " ++ quoted site ++ ", || \x7b")
      :: inner ++ [line (indent + 1) "Ok(())", line indent "\x7d);"]
  | .constructProxy field space =>
    .ok [line indent (Naming.screaming field ++ ".get_or_init(|| " ++ Naming.pascal space
      ++ "::new(&" ++ names.receiver ++ ".context));")]
  | .openProbe routingKey =>
    .ok [line indent (names.receiver ++ ".source.open_probe(" ++ names.context
      ++ ".probes.as_ref(), " ++ quoted routingKey ++ ")?;")]
  | .startConsumer exchange routingKey queue _ =>
    .ok [line indent (names.receiver ++ ".source.start_consumer("),
      line (indent + 1) (names.context ++ ".bus.clone(),"),
      line (indent + 1) ("ConsumerConfig::new(" ++ quoted exchange ++ ", " ++ quoted routingKey
        ++ ").with_queue(" ++ quoted queue ++ "),"),
      line indent ")?;"]
  | .getVariable name =>
    .ok [line indent (names.receiver ++ ".connection()?.get(" ++ quoted name ++ ")")]
  | .setVariable name =>
    .ok [line indent (names.receiver ++ ".connection()?.set(" ++ quoted name ++ ", value)")]
  | .returnField field => .ok [line indent ("&" ++ names.receiver ++ "." ++ Naming.ident field)]
  | .returnPredicate predicate =>
    .ok [line indent ("Ok(" ++ predicate.render names.event ++ ")")]
  | .returnConst value => .ok [line indent (if value then "true" else "false")]
  | .connectStore .. => .error .typeLevel
  | .registerVariable .. => .error .typeLevel
  | .dispatchTyped .. => .error .typeLevel
  | .dispatchInterval .. => .error .typeLevel

/-- The lines of statements. -/
def bodyLines (names : BodyNames) (indent : Nat) : List Stmt → Except RenderFlaw (List String)
  | [] => .ok []
  | stmt :: rest => do
    let first ← stmtLines names indent stmt
    let others ← bodyLines names indent rest
    return first ++ others

end

/-- The statement gives the value of its method. -/
def isTail : Stmt → Bool
  | .getVariable _ | .setVariable _ | .returnField _ | .returnPredicate _ | .returnConst _ => true
  | _ => false

/-! ## Fields and methods -/

/-- The type of a field. -/
def fieldType (f : Field) : String :=
  match f.type with
  | .value _ => if f.constant then "Value" else "RwLock<Value>"
  | .periodic => "Arc<PeriodicEvent>"
  | .event type => "Arc<" ++ type ++ ">"
  | .handler type => "Arc<" ++ type ++ ">"
  | .childProxy type => "Arc<" ++ type ++ ">"
  | .predicate type => "Arc<" ++ type ++ ">"
  | .proxy space => "Arc<" ++ Naming.pascal space ++ ">"
  | .threshold => "Decimal"

/-- The expression that constructs a nested type, by what the type stands for. -/
def construction? (type : String) : BlueprintKind → Option String
  | .probeEvent .. => some (type ++ "::new(context)")
  | .changeEvent .. => some (type ++ "::new(context)")
  | .intervalJob .. => some (type ++ "::new(this.clone())")
  | .observerAdapter .. => some (type ++ "::new(this.clone(), context.policy.clone())")
  | .predicate => some (type ++ "::new()")
  | .namespaceProxy .. => some (type ++ "::new(root)")
  | .monitor => none
  | .namespaceStorage => none

/-- The expression that a field begins with. -/
def fieldInit (owner : Blueprint) (f : Field) : Except RenderFlaw String :=
  let missing := RenderFlaw.noInitializer f.name owner.name
  match f.init with
  | none => .error missing
  | some (.expr e) =>
    .ok (if f.constant then e.valueText else "RwLock::new(" ++ e.valueText ++ ")")
  | some (.cron expression) =>
    .ok ("Arc::new(PeriodicEvent::new(" ++ quoted f.name ++ ", " ++ quoted expression
      ++ ", context.scheduler.clone()))")
  | some (.decimal d) =>
    .ok ("Decimal::from_i128_with_scale(" ++ toString d.coefficient ++ ", " ++ toString d.scale
      ++ ")")
  | some (.construct type) =>
    match (owner.nested? type).bind fun nested => construction? type nested.kind with
    | some text => .ok text
    | none => .error missing

/-- The lines of the fields of a struct. -/
def fieldLines (visibility : String) (fields : List Field) : List String :=
  fields.map fun f => "    " ++ visibility ++ Naming.ident f.name ++ ": " ++ fieldType f ++ ","

/-- The lines that give the fields of a new instance their values. -/
def initLines (owner : Blueprint) (fields : List Field) : Except RenderFlaw (List String) :=
  fields.mapM fun f => do
    return "            " ++ Naming.ident f.name ++ ": " ++ (← fieldInit owner f) ++ ","

/-- The type of a parameter. -/
def paramType (type : String) : String :=
  if type = "Value" then "Value" else "&" ++ type

/-- The type of a result. -/
def returnType (type : String) : String :=
  if type = "Value" ∨ type = "bool" then type else "&Arc<" ++ type ++ ">"

/-- What stands behind the parameters of a method. -/
def returnText (m : Method) : String :=
  match m.returns, m.propagates with
  | some type, true => " -> Result<" ++ returnType type ++ ">"
  | none, true => " -> Result<()>"
  | some type, false => " -> " ++ returnType type
  | none, false => ""

/-- The lines of a method. -/
def methodLines (m : Method) : Except RenderFlaw (List String) := do
  let params := Text.join "" (m.params.map fun (name, type) =>
    ", " ++ Naming.ident name ++ ": " ++ paramType type)
  let body ← bodyLines { receiver := "self", context := "self.context" } 2 m.body
  let tail := if m.propagates && !(m.body.getLast?.any isTail) then ["        Ok(())"] else []
  return ("    pub fn " ++ Naming.ident m.name ++ "(&self" ++ params ++ ")" ++ returnText m ++ " \x7b")
    :: body ++ tail ++ ["    \x7d"]

/-- Lines as a text. -/
def unlines (lines : List String) : String :=
  Text.join "" (lines.map (· ++ "\n"))

end Watchtower.Rendering
