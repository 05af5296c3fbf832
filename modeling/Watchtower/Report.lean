-- Lowering whole units. Each declaration is accepted or rejected on its own, and a rejected
-- one does not stop the others.
import Watchtower.Blueprint.Monitor
import Watchtower.Blueprint.Space
import Watchtower.Members

namespace Watchtower

open Source (SourceUnit Declaration)

/-- A declaration lowered to a blueprint. -/
def Blueprint.ofDeclaration (package : Option String) (index : SpaceIndex) :
    Declaration → Except Rejection Blueprint
  | .monitor decl => Blueprint.ofMonitor package index decl
  | .space decl => .ok (Blueprint.ofSpace package decl)

/-- A declaration that was rejected, by its qualified name. -/
structure LoweringFailure where
  declaration : String
  rejection : Rejection
deriving DecidableEq, Repr

/-- The outcome for each declaration, in order. -/
structure Report where
  outcomes : List (String × Except Rejection Blueprint)

namespace Report

/-- Checks a declaration if `validate` is set, and lowers it. -/
def outcome (validate : Bool) (package : Option String) (index : SpaceIndex) (decl : Declaration) :
    Except Rejection Blueprint := do
  if validate then Members.check index decl
  Blueprint.ofDeclaration package index decl

/-- Lowers the declarations of some units. -/
def ofUnits (units : List SourceUnit) (validate : Bool) : Report :=
  let index := SpaceIndex.ofUnits units
  ⟨units.flatMap fun unit => unit.declarations.map fun decl =>
    (unit.qualify decl.name, outcome validate unit.package index decl)⟩

/-- The qualified names of the accepted declarations. -/
def accepted (r : Report) : List String :=
  r.outcomes.filterMap fun
    | (name, .ok _) => some name
    | (_, .error _) => none

/-- The blueprints of the accepted declarations. -/
def blueprints (r : Report) : List Blueprint :=
  r.outcomes.filterMap fun
    | (_, .ok b) => some b
    | (_, .error _) => none

/-- The rejected declarations. -/
def failures (r : Report) : List LoweringFailure :=
  r.outcomes.filterMap fun
    | (_, .ok _) => none
    | (name, .error rejection) => some ⟨name, rejection⟩

/-- Nothing was rejected. -/
def isClean (r : Report) : Bool := r.failures.isEmpty

end Report

end Watchtower
