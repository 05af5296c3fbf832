-- Edits of blueprints: small changes before they are rendered or linked. An edit of a part that
-- is not there gives nothing.
import Watchtower.Blueprint.Basic

namespace Watchtower

/-- A change of a blueprint. -/
inductive BlueprintEdit where
  | removeNested (name : String)
  | removeMethod (name : String)
  | removeField (name : String)
  | clearInit (field : String)
  | unshare (field : String)
  | clearConstructor
  | clearDoc
  | clearMethod (name : String)
  | pushConstructor (stmt : Stmt)
  /-- A statement at the end of the guarded part with which the constructor begins. -/
  | pushGuarded (stmt : Stmt)
  | pushMethod (name : String) (stmt : Stmt)
  | setKind (kind : BlueprintKind)
  | adopt (nested : Blueprint)

/-- Changes the first item of a name. -/
def updateNamed? (nameOf : α → String) (name : String) (f : α → α) : List α → Option (List α)
  | [] => none
  | a :: rest =>
    if nameOf a = name then some (f a :: rest)
    else (updateNamed? nameOf name f rest).map (a :: ·)

/-- Removes the first item of a name. -/
def removeNamed? (nameOf : α → String) (name : String) : List α → Option (List α)
  | [] => none
  | a :: rest =>
    if nameOf a = name then some rest else (removeNamed? nameOf name rest).map (a :: ·)

namespace Blueprint

/-- Changes the field of a name. -/
def updateField? (b : Blueprint) (name : String) (f : Field → Field) : Option Blueprint := do
  return { b with fields := ← updateNamed? Field.name name f b.fields }

/-- Changes the body of the method of a name. -/
def updateBody? (b : Blueprint) (name : String) (f : List Stmt → List Stmt) : Option Blueprint := do
  return { b with
    methods := ← updateNamed? Method.name name (fun m => { m with body := f m.body }) b.methods }

/-- A blueprint after an edit. -/
def edit? (b : Blueprint) : BlueprintEdit → Option Blueprint
  | .removeNested name => do return { b with nested := ← removeNamed? Blueprint.name name b.nested }
  | .removeMethod name => do return { b with methods := ← removeNamed? Method.name name b.methods }
  | .removeField name => do return { b with fields := ← removeNamed? Field.name name b.fields }
  | .clearInit name => b.updateField? name fun f => { f with init := none }
  | .unshare name => b.updateField? name fun f => { f with shared := false }
  | .clearConstructor => some { b with constructor := [] }
  | .clearDoc => some { b with doc := none }
  | .clearMethod name => b.updateBody? name fun _ => []
  | .pushConstructor stmt => some { b with constructor := b.constructor ++ [stmt] }
  | .pushGuarded stmt =>
    match b.constructor with
    | .guarded site body :: rest =>
      some { b with constructor := .guarded site (body ++ [stmt]) :: rest }
    | _ => none
  | .pushMethod name stmt => b.updateBody? name (· ++ [stmt])
  | .setKind kind => some { b with kind }
  | .adopt nested => some { b with nested := b.nested ++ [nested] }

end Blueprint

end Watchtower
