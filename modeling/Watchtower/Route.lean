-- Where events come from. Those of probes share one exchange. The emitter of a change event is a
-- chain such as `cpu.limits.max`: its first segment names the root namespace, the others the
-- variable.
import Watchtower.Source.Declaration
import Watchtower.Naming

namespace Watchtower

open Source (Expr SourceUnit)

/-- The exchange on which probes publish. -/
def probeExchange : String := "vigil.probes"

/-- The canonical names of the root namespaces, by their names. Of two entries with one name
the first counts. -/
structure SpaceIndex where
  roots : List (String × String) := []

namespace SpaceIndex

/-- Enters a root namespace. -/
def insert (index : SpaceIndex) (root canonical : String) : SpaceIndex :=
  ⟨(root, canonical) :: index.roots⟩

/-- The canonical name of a root namespace. -/
def canonical? (index : SpaceIndex) (root : String) : Option String :=
  index.roots.lookup root

/-- The root namespace is known. -/
def contains (index : SpaceIndex) (root : String) : Bool :=
  (index.canonical? root).isSome

/-- The root namespaces of a unit, each with its canonical name. -/
def rootsOf (unit : SourceUnit) : List (String × String) :=
  unit.declarations.filterMap fun
    | .space decl => some (decl.name, unit.qualify (Naming.pascal decl.name))
    | .monitor _ => none

/-- The index of the root namespaces of some units. A later one takes the place of an earlier
one of its name. -/
def ofUnits (units : List SourceUnit) : SpaceIndex :=
  (units.flatMap rootsOf).foldl (fun index (root, canonical) => index.insert root canonical) {}

end SpaceIndex

/-- Where a change event subscribes. -/
structure Route where
  exchange : String
  /-- The name of the root namespace. -/
  routingKey : String
  queue : String
  /-- The path of the variable within the root. It is empty where the root itself is meant. -/
  variablePath : String
deriving DecidableEq, Repr

namespace Route

/-- The segments that are met on the way along a chain: the outermost first, and the pieces of a
text from the last. -/
def walk : Expr → List String
  | .member receiver feature _ => Text.trim feature :: walk receiver
  | .root feature _ => [Text.trim feature]
  | .source text => (Text.dotted text).reverse.map Text.trim
  | .literal _ => []

/-- The class that declares the first feature of a chain. An empty name counts as none. -/
def rootClass? : Expr → Option String
  | .member receiver _ _ => rootClass? receiver
  | .root _ declaredClass => declaredClass.filter (!·.isEmpty)
  | _ => none

/-- The route of an event of a monitor with this emitter, unless the emitter has no segments. The
last segment that is met is the root. -/
def ofEmitter? (monitor event : String) (emitter : Expr) (index : SpaceIndex) : Option Route :=
  let met := (walk emitter).filter (!·.isEmpty)
  met.getLast?.map fun root =>
    let variablePath := Text.join "." met.dropLast.reverse
    { exchange := ((rootClass? emitter).or (index.canonical? root)).getD root
      routingKey := root
      queue :=
        if variablePath.isEmpty then monitor ++ "." ++ event ++ "." ++ root
        else monitor ++ "." ++ event ++ "." ++ root ++ "." ++ variablePath
      variablePath }

end Route

/-- The JSON form of a route. -/
def Route.toJson (r : Route) : Json :=
  .obj [("exchange", .str r.exchange), ("routingKey", .str r.routingKey), ("queue", .str r.queue),
    ("variablePath", .str r.variablePath)]

end Watchtower
