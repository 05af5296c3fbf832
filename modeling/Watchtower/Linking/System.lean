-- Whole systems linked from blueprints: the namespaces first, since monitors bind them when
-- they are constructed.
import Watchtower.Linking.Monitor
import Watchtower.Linking.Space

namespace Watchtower.Linking

open Live

/-- The blueprint is that of a namespace proxy. -/
def isProxy (b : Blueprint) : Bool :=
  match b.kind with
  | .namespaceProxy .. => true
  | _ => false

/-- Links all namespaces and then all monitors among some blueprints, over a store, and gives the
numbers of the monitors. The first refusal ends it. -/
def linkAll (bindings : Bindings) (store : Nat) (bs : List Blueprint) : Link (List Nat) := do
  (bs.filter isProxy).forM fun b => do
    let _ ← linkSpace bindings store b
  linkMonitors bindings bs

end Watchtower.Linking
