-- Finding and changing a blueprint among others by the names that lead to it.
import Watchtower.Blueprint.Basic

namespace Watchtower.Blueprint

/-- Changes the first blueprint with a name. -/
def updateFirst (name : String) (f : Blueprint → Option Blueprint) :
    List Blueprint → Option (List Blueprint)
  | [] => none
  | b :: rest =>
    if b.name = name then (f b).map (· :: rest) else (updateFirst name f rest).map (b :: ·)

/-- The blueprint that a path of names leads to. -/
def find? : List String → List Blueprint → Option Blueprint
  | [], _ => none
  | [name], bs => List.find? (·.name == name) bs
  | name :: path, bs => (List.find? (·.name == name) bs).bind fun b => find? path b.nested

/-- Changes the blueprint that a path of names leads to. -/
def update? (f : Blueprint → Option Blueprint) :
    List String → List Blueprint → Option (List Blueprint)
  | [], _ => none
  | [name], bs => updateFirst name f bs
  | name :: path, bs =>
    updateFirst name (fun b => (update? f path b.nested).map fun nested => { b with nested }) bs

end Watchtower.Blueprint
