-- Namespaces linked from their blueprints: the shape of the tree comes from the getters and
-- setters, the variables from the storage, and the connection from the constructor.
import Watchtower.Linking.Refusal

namespace Watchtower.Linking

open Live

/-! ## Shapes -/

/-- The variables that methods give access to, each with whether it has a setter. -/
def shapeVariables (methods : List Method) : List (String × Bool) :=
  methods.filterMap fun m =>
    match m.body with
    | [.getVariable name] =>
      some (Text.lastDotted name, methods.any fun other =>
        match other.body with
        | [.setVariable written] => written == name
        | _ => false)
    | _ => none

mutual

/-- The shape of a namespace of this name. -/
def shapeOf (name : String) : Blueprint → Shape
  | ⟨_, _, _, _, _, _, methods, nested⟩ => ⟨name, shapeVariables methods, childShapes nested⟩

/-- The shapes of those types that are proxies. -/
def childShapes : List Blueprint → List Shape
  | [] => []
  | ⟨type, qualifiedName, kind, doc, fields, constructor, methods, nested⟩ :: rest =>
    match kind with
    | .namespaceProxy _ path =>
      shapeOf (Text.lastDotted path)
          ⟨type, qualifiedName, kind, doc, fields, constructor, methods, nested⟩
        :: childShapes rest
    | _ => childShapes rest

end

/-! ## Variables -/

/-- The variables that a storage registers, with their initial values. -/
def registrationsOf (bindings : Bindings) (storage : Blueprint) :
    Except Fault (List (String × Json × Bool)) :=
  (storage.constructor.filterMap fun
    | .registerVariable name initializer writable => some (name, initializer, writable)
    | _ => none).mapM fun (name, initializer, writable) => do
      return (name, ← bindings.initial name initializer, writable)

/-! ## Linking -/

/-- Connects a root namespace and registers its variables: all of them, or none if one has no
value. -/
def connectSpace (bindings : Bindings) (store : Nat) (storage : Blueprint)
    (space exchange : String) : Run Nat :=
  Run.update fun w => do
    let (connection, w) := w.connect space exchange store
    let w ← w.registerAll connection (← registrationsOf bindings storage)
    return (connection, w)

/-- The connection that a constructor makes; the last one counts. -/
def runConstructor (bindings : Bindings) (store : Nat) (b storage : Blueprint) :
    Link (Option Nat) :=
  b.constructor.foldlM (fun connection stmt =>
    match stmt with
    | .guarded site body => body.foldlM (fun _ inner =>
        match inner with
        | .connectStore space exchange =>
          Link.ofRun b.qualifiedName
            (Run.guarded site (connectSpace bindings store storage space exchange))
        | other => refuseStmt b other) connection
    | other => refuseStmt b other) none

/-- Links a root namespace and keeps it for the monitors. A name is linked once. -/
def linkSpace (bindings : Bindings) (store : Nat) (b : Blueprint) : Link Handle := do
  match b.kind with
  | .namespaceProxy root _ =>
    if ((← get).spaces.lookup root).isSome then
      Link.refuse b.qualifiedName ("namespace '" ++ root ++ "' is already linked")
    let storage ← Link.require b.qualifiedName "missing storage type"
      (b.nested.find? (·.kind == .namespaceStorage))
    let connection ← runConstructor bindings store b storage
    let handle := Handle.ofShape (shapeOf root b) connection
    modify fun w => { w with spaces := Sorted.insert root handle w.spaces }
    return handle
  | _ => Link.refuse b.qualifiedName "not a namespace proxy"

end Watchtower.Linking
