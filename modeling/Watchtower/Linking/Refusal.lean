-- Linking: running systems made from blueprints. What cannot be linked is refused with a reason;
-- what was recorded and opened until then stays.
import Watchtower.Live.Delivery
import Watchtower.Rejection

namespace Watchtower.Linking

open Live

/-- Why nothing was linked. -/
inductive Refusal where
  | rejected (rejection : Rejection)
  /-- User code crashed. -/
  | crashed
deriving DecidableEq, Repr

/-- A step of linking. What it did to the world stays when it is refused. -/
abbrev Link (α : Type) := ExceptT Refusal (StateM World) α

namespace Link

/-- The step that refuses a type for a reason. -/
def refuse (name reason : String) : Link α :=
  throw (.rejected (.notLinked name reason))

/-- What a type needs, or else a refusal. -/
def require (name reason : String) : Option α → Link α
  | some a => pure a
  | none => refuse name reason

/-- A run as a step for a type. A fault refuses the type. -/
def ofRun (name : String) (run : Run α) : Link α := fun w =>
  match run w with
  | (.ok a, w) => (.ok a, w)
  | (.error (.fault f), w) => (.error (.rejected (.notLinked name f.message)), w)
  | (.error .crash, w) => (.error .crashed, w)

/-- A value that a type needs. A fault refuses the type. -/
def ofExcept (name : String) : Except Fault α → Link α
  | .ok a => pure a
  | .error f => refuse name f.message

/-- A step that is undone when it is refused. -/
def orElseUndo (step : Link α) (undo : World → World) : Link α :=
  tryCatch step fun refusal => do
    modify undo
    throw refusal

end Link

/-- The nested type of this name. -/
def nestedType (b : Blueprint) (name : String) : Link Blueprint :=
  .require b.qualifiedName ("nested type '" ++ name ++ "' is missing") (b.nested? name)

/-- The refusal of a statement that a constructor should not have. -/
def refuseStmt (b : Blueprint) (stmt : Stmt) : Link α :=
  .refuse b.qualifiedName ("unexpected constructor statement " ++ stmt.outline)

end Watchtower.Linking
