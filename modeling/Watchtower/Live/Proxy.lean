-- Proxies: a namespace tree as monitors see it. Every node reads and writes through the one
-- connection of its root.
import Watchtower.Event.Basic
import Watchtower.Fault
import Watchtower.Sorted
import Watchtower.Text.Split

namespace Watchtower.Live

/-- The form of a namespace: its variables, each with whether it has a setter, and its children. -/
structure Shape where
  name : String
  vars : List (String × Bool)
  children : List Shape

/-- A node of a namespace tree. Variables and children are sorted by name. -/
structure Proxy where
  name : String
  /-- The names from the root to the node, with dots. -/
  qualifiedName : String
  vars : List (String × Bool)
  children : List (String × Proxy)

namespace Proxy

mutual

/-- The node of a shape with this qualified name. -/
def build (qualifiedName : String) : Shape → Proxy
  | ⟨name, vars, children⟩ =>
    ⟨name, qualifiedName, Sorted.ofList vars,
      Sorted.ofList (buildAll qualifiedName children)⟩

/-- The nodes of the children of a node with this qualified name, each under its name. -/
def buildAll (parent : String) : List Shape → List (String × Proxy)
  | [] => []
  | ⟨name, vars, children⟩ :: rest =>
    (name, build (parent ++ "." ++ name) ⟨name, vars, children⟩) :: buildAll parent rest

end

/-- The tree of a root namespace. -/
def ofShape (shape : Shape) : Proxy :=
  build shape.name shape

/-- The child of this name. -/
def child? (p : Proxy) (name : String) : Option Proxy :=
  p.children.lookup name

/-- The node to which names lead, each that of a child. -/
def descend? (p : Proxy) : List String → Option Proxy
  | [] => some p
  | name :: rest => (p.child? name).bind (·.descend? rest)

/-- The name of a variable in the store. -/
def qualify (p : Proxy) (variable_ : String) : String :=
  p.qualifiedName ++ "." ++ variable_

/-- The variable has a setter. -/
def hasSetter (p : Proxy) (name : String) : Bool :=
  p.vars.lookup name = some true

/-- The name in the store of a variable that is to be read. -/
def readable (p : Proxy) (name : String) : Except Fault String :=
  if (p.vars.lookup name).isSome then .ok (p.qualify name)
  else .error (.unknownMember "variable" (p.qualify name))

/-- The name in the store of a variable that is to be written. -/
def writable (p : Proxy) (name : String) : Except Fault String := do
  let qualified ← p.readable name
  if p.hasSetter name then .ok qualified else .error (.readOnly qualified)

end Proxy

/-- The connection of a root namespace to a store and the bus. -/
structure Connection where
  /-- The name of the namespace, which is also the routing key of its changes. -/
  space : String
  exchange : String
  /-- The number of the store. -/
  store : Nat
  /-- How many hold the connection. Without a holder it is gone. -/
  holders : Nat := 1
deriving DecidableEq, Repr

/-- The path of a variable within its root namespace. A name from elsewhere stays as it is. -/
def Connection.relativePath (c : Connection) (name : String) : String :=
  (Text.after? (c.space ++ ".") name).getD name

/-- What a write of a variable publishes. -/
def Connection.change (c : Connection) (name : String) (previous current : Json) : Payload :=
  .change (c.relativePath name) previous current

/-- A node of a tree as somebody holds it, with the number of the connection of its root. -/
structure Handle where
  proxy : Proxy
  connection : Option Nat
  /-- The holder of the root holds the connection too. -/
  isRoot : Bool := true

/-- The root of a tree of this shape. It takes over one hold on the connection. -/
def Handle.ofShape (shape : Shape) (connection : Option Nat) : Handle :=
  { proxy := .ofShape shape, connection }

/-- The child of this name. -/
def Handle.child? (h : Handle) (name : String) : Option Handle :=
  (h.proxy.child? name).map fun proxy => { h with proxy, isRoot := false }

/-- The node to which names lead. -/
def Handle.descend? (h : Handle) : List String → Option Handle
  | [] => some h
  | name :: rest => (h.child? name).bind (·.descend? rest)

end Watchtower.Live
