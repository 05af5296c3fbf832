-- The checks of a declaration before it is lowered: no two members of a scope may get the same
-- name in generated code, nor one that generated code needs itself.
import Watchtower.Rejection
import Watchtower.Route

namespace Watchtower.Members

open Source (SpaceItem Declaration)

/-- The members that every monitor has. -/
def monitorReserved : List String :=
  ["new", "initialize", "pause", "resume", "is_paused", "name", "events", "core", "context"]

/-- The members that every namespace has. -/
def spaceReserved : List String := ["new", "connection", "root"]

/-- Adds a member to those of a scope, unless its name is reserved or taken. -/
def insert (reserved : List String) (scope : String) (seen : List String) (kind name : String) :
    Except Rejection (List String) :=
  let member := Naming.snake name
  if reserved.contains member || Text.startsWith member "code_" then
    .error (.reservedMember kind name scope reserved)
  else if seen.contains member then .error (.duplicateMember kind name scope)
  else .ok (member :: seen)

/-! ## Namespaces -/

/-- The child would have the name of the getter or the setter of a variable. -/
def shadows (vars : List Source.Variable) (child : String) : Bool :=
  vars.any fun v =>
    Naming.snake child == "get_" ++ Naming.snake v.name
      || Naming.snake child == "set_" ++ Naming.snake v.name

/-- No child has the name of a getter or a setter. -/
def checkAccessors (scope : String) (body : List SpaceItem) : Except Rejection Unit :=
  body.forM fun
    | .variable _ => .ok ()
    | .space name _ _ =>
      if shadows (SpaceItem.vars body) name then
        .error (.duplicateMember "namespace" name scope)
      else .ok ()

mutual

/-- Adds a statement of a namespace to the members of its scope, and checks what is in it. -/
def checkItem (scope : String) (seen : List String) : SpaceItem → Except Rejection (List String)
  | .variable decl => insert spaceReserved scope seen "variable" decl.name
  | .space name body _ => do
    let seen ← insert spaceReserved scope seen "namespace" name
    checkItems (scope ++ "." ++ name) [] body
    checkAccessors (scope ++ "." ++ name) body
    return seen

/-- Checks the statements of a namespace in order. -/
def checkItems (scope : String) (seen : List String) : List SpaceItem → Except Rejection Unit
  | [] => .ok ()
  | item :: rest => do
    let seen ← checkItem scope seen item
    checkItems scope seen rest

end

/-- Checks a root namespace. -/
def checkSpace (decl : Source.Namespace) : Except Rejection Unit := do
  checkItems decl.name [] decl.body
  checkAccessors decl.name decl.body

/-! ## Monitors -/

/-- Adds a used namespace to the members of a monitor. -/
def checkUsing (index : SpaceIndex) (monitor : String) (seen : List String) (space : String) :
    Except Rejection (List String) :=
  if index.contains space then insert monitorReserved monitor seen "namespace" space
  else .error (.unknownNamespace monitor space)

/-- Adds a statement of a monitor to its members. -/
def checkStatement (monitor : String) (seen : List String) :
    Source.MonitorItem → Except Rejection (List String)
  | .variable decl => insert monitorReserved monitor seen "variable" decl.name
  | .event decl => insert monitorReserved monitor seen "event" decl.name
  | .handler decl => do
    let seen ← insert monitorReserved monitor seen "handler" decl.name
    if (EventKind.ofTypeName? decl.paramType).isNone then
      .error (.unknownEventType monitor decl.name decl.paramType)
    else .ok seen
  | .code _ => .ok seen

/-- Checks a monitor. -/
def checkMonitor (index : SpaceIndex) (decl : Source.Monitor) : Except Rejection Unit := do
  let seen ← decl.usings.foldlM (checkUsing index decl.name) []
  let _ ← decl.body.foldlM (checkStatement decl.name) seen

/-- Checks a declaration. -/
def check (index : SpaceIndex) : Declaration → Except Rejection Unit
  | .monitor decl => checkMonitor index decl
  | .space decl => checkSpace decl

end Watchtower.Members
