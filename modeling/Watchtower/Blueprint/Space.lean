-- Namespaces lowered to blueprints: a proxy for each node of the tree, and one storage that
-- registers all variables of the tree under their dotted names.
import Watchtower.Blueprint.Basic
import Watchtower.Source.Declaration
import Watchtower.Naming

namespace Watchtower

open Source (SpaceItem Variable)

/-- The method that reads a variable, and the one that writes it if it is writable. -/
def accessors (path : String) (v : Source.Variable) : List Method :=
  let name := path ++ "." ++ v.name
  let getter : Method :=
    { name := "get_" ++ v.name, returns := some "Value", propagates := true
      body := [.getVariable name] }
  let setter : Method :=
    { name := "set_" ++ v.name, params := [("value", "Value")], returns := some "Value"
      propagates := true, body := [.setVariable name] }
  if v.writable then [getter, setter] else [getter]

/-- The field of a child of a namespace. -/
def childField (name type : String) : Field :=
  { name, type := .childProxy type, init := some (.construct type) }

/-- The method that gives access to a child of a namespace. -/
def childAccessor (name type : String) : Method :=
  { name, returns := some type, body := [.returnField name] }

/-- The proxy of a node of a namespace, from its variables and the proxies of its children. -/
def Blueprint.proxy (root path name qualifiedName : String) (vars : List Source.Variable)
    (children : List (String × Blueprint)) : Blueprint :=
  { name
    qualifiedName
    kind := .namespaceProxy root path
    fields := children.map fun (child, b) => childField child b.name
    methods := vars.flatMap (accessors path)
      ++ children.map fun (child, b) => childAccessor child b.name
    nested := children.map (·.2) }

mutual

/-- The proxy of a child of the node with this path, type name and qualified name. A variable
has none. -/
def childProxies (root path type qualifiedName : String) : SpaceItem → List (String × Blueprint)
  | .variable _ => []
  | .space name body _ =>
    let path := path ++ "." ++ name
    let type := type ++ Naming.pascal name
    let qualifiedName := qualifiedName ++ "." ++ name
    [(name, .proxy root path type qualifiedName (SpaceItem.vars body)
      (allProxies root path type qualifiedName body))]

/-- The proxies of all children of a node. -/
def allProxies (root path type qualifiedName : String) :
    List SpaceItem → List (String × Blueprint)
  | [] => []
  | item :: rest =>
    childProxies root path type qualifiedName item ++ allProxies root path type qualifiedName rest

end

/-- The registration of a variable. Setters are the only way to write it. -/
def registration (path : String) (v : Source.Variable) : Stmt :=
  .registerVariable (path ++ "." ++ v.name) v.initializer false

mutual

/-- The registrations of a child of a node. -/
def childRegistrations (path : String) : SpaceItem → List Stmt
  | .variable _ => []
  | .space name body _ =>
    (SpaceItem.vars body).map (registration (path ++ "." ++ name))
      ++ allRegistrations (path ++ "." ++ name) body

/-- The registrations of all children of a node. -/
def allRegistrations (path : String) : List SpaceItem → List Stmt
  | [] => []
  | item :: rest => childRegistrations path item ++ allRegistrations path rest

end

/-- The registrations of a tree: at each node the variables come before the children. -/
def registrations (path : String) (body : List SpaceItem) : List Stmt :=
  (SpaceItem.vars body).map (registration path) ++ allRegistrations path body

/-- A root namespace of a package lowered to a blueprint. -/
def Blueprint.ofSpace (package : Option String) (decl : Source.Namespace) : Blueprint :=
  let type := Naming.pascal decl.name
  let canonical := Source.qualify package type
  let root := Blueprint.proxy decl.name decl.name type canonical (SpaceItem.vars decl.body)
    (allProxies decl.name decl.name type canonical decl.body)
  let storage : Blueprint :=
    { name := type ++ "Storage"
      qualifiedName := canonical ++ "Storage"
      kind := .namespaceStorage
      constructor := registrations decl.name decl.body }
  { root with
    doc := some ("Namespace `" ++ decl.name ++ "`.")
    constructor := [.guarded (type ++ "::new") [.connectStore decl.name canonical]]
    nested := storage :: root.nested }

end Watchtower
