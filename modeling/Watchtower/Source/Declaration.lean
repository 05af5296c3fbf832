-- The source tree: monitors and namespaces, as a front end hands them over.
import Watchtower.Event.Kind
import Watchtower.Source.Specifier

namespace Watchtower.Source

/-- A place in a source file. -/
structure Span where
  file : String
  startLine : Nat
  startCol : Nat
  endLine : Nat
  endCol : Nat
deriving DecidableEq, Repr

/-- The place where a span begins. -/
def Span.text (s : Span) : String :=
  s.file ++ ":" ++ toString s.startLine ++ ":" ++ toString s.startCol

/-! ## Namespaces -/

/-- A declared variable. -/
structure Variable where
  name : String
  /-- The declared type. -/
  type : Option String
  initializer : Expr
  writable : Bool
deriving DecidableEq, Repr

/-- A statement of a namespace: a variable, or a namespace within it. -/
inductive SpaceItem where
  | variable (decl : Variable)
  | space (name : String) (body : List SpaceItem) (span : Option Span)
deriving Repr

/-- A root namespace. -/
structure Namespace where
  name : String
  body : List SpaceItem
  span : Option Span
deriving Repr

/-- The variables among the statements. -/
def SpaceItem.vars (body : List SpaceItem) : List Variable :=
  body.filterMap fun
    | .variable decl => some decl
    | .space .. => none

/-! ## Monitors -/

/-- What an event is raised by, other than a schedule. -/
inductive Occurrence where
  | invoke
  | returned
  | exception
  | timeLapse
  | change
deriving DecidableEq, Repr

/-- The kind of the events that an occurrence raises. -/
def Occurrence.kind : Occurrence → EventKind
  | .invoke => .invoke
  | .returned => .returned
  | .exception => .exception
  | .timeLapse => .timeLapse
  | .change => .change

/-- What raises an event: a schedule, or an occurrence in the application. -/
inductive Emitter where
  | periodic (cron : String)
  | typed (occurrence : Occurrence) (emitter : Expr) (specifier : Option Specifier)
deriving DecidableEq, Repr

/-- A declared event. -/
structure EventDecl where
  name : String
  emitter : Emitter
  span : Option Span
deriving DecidableEq, Repr

/-- A declared handler, with its parameter and its body in the target language. -/
structure HandlerDecl where
  name : String
  paramName : String
  paramType : String
  source : String
  doc : Option String
  span : Option Span
deriving DecidableEq, Repr

/-- A statement of a monitor. -/
inductive MonitorItem where
  | variable (decl : Variable)
  | event (decl : EventDecl)
  | handler (decl : HandlerDecl)
  | code (source : String)
deriving DecidableEq, Repr

/-- A monitor, with the root namespaces that it uses. -/
structure Monitor where
  name : String
  usings : List String
  body : List MonitorItem
  span : Option Span
deriving DecidableEq, Repr

/-! ## Units -/

/-- A declaration at the top of a unit. -/
inductive Declaration where
  | monitor (decl : Monitor)
  | space (decl : Namespace)
deriving Repr

/-- The name of a declaration. -/
def Declaration.name : Declaration → String
  | .monitor decl => decl.name
  | .space decl => decl.name

/-- The declarations of one source file, and the package they live in. -/
structure SourceUnit where
  package : Option String
  declarations : List Declaration
deriving Repr

/-- A name within a package. An empty package is none. -/
def qualify (package : Option String) (name : String) : String :=
  match package with
  | none => name
  | some package => if package.isEmpty then name else package ++ "." ++ name

/-- The qualified name of a declaration of the unit. -/
def SourceUnit.qualify (unit : SourceUnit) (name : String) : String :=
  Source.qualify unit.package name

end Watchtower.Source
