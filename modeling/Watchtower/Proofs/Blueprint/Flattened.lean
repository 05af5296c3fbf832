-- The flattened tree of a namespace: all its variables in one list, each with the path to its node.
-- The storage of the namespace registers them in just this order.
import Watchtower.Proofs.Blueprint.Space

namespace Watchtower

open Source (SpaceItem Leads Variable)

/-! ## Flattening -/

namespace Source

mutual

/-- The variables of a child and of those below it, each with the path to its node. -/
def SpaceItem.flatten : SpaceItem → List (List String × Variable)
  | .variable _ => []
  | .space name body _ =>
    ((SpaceItem.vars body).map (([], ·)) ++ SpaceItem.flattenAll body).map
      fun (path, v) => (name :: path, v)

/-- The variables of all children of a node. -/
def SpaceItem.flattenAll : List SpaceItem → List (List String × Variable)
  | [] => []
  | item :: rest => item.flatten ++ SpaceItem.flattenAll rest

end

/-- The variables of a tree as they are declared, each with the path to its node: at each node the
variables come before those of its children. -/
def flattened (body : List SpaceItem) : List (List String × Variable) :=
  (SpaceItem.vars body).map (([], ·)) ++ SpaceItem.flattenAll body

theorem SpaceItem.flatten_space (name : String) (body : List SpaceItem) (span : Option Span) :
    (SpaceItem.space name body span).flatten =
      (flattened body).map fun (path, v) => (name :: path, v) := by
  rw [SpaceItem.flatten, flattened]

theorem SpaceItem.mem_flattenAll {items : List SpaceItem} {entry : List String × Variable} :
    entry ∈ SpaceItem.flattenAll items ↔ ∃ item ∈ items, entry ∈ item.flatten := by
  induction items with
  | nil => simp [SpaceItem.flattenAll]
  | cons item rest ih => simp [SpaceItem.flattenAll, ih]

/-- The path of a variable below a node begins with the name of a child. -/
theorem SpaceItem.mem_flatten {item : SpaceItem} {path : List String} {v : Variable} :
    (path, v) ∈ item.flatten ↔ ∃ name body span rest, item = .space name body span ∧
      path = name :: rest ∧ (rest, v) ∈ flattened body := by
  rcases item with decl | ⟨name, body, span⟩
  · simp [SpaceItem.flatten]
  · rw [SpaceItem.flatten_space, List.mem_map]
    constructor
    · rintro ⟨⟨rest, v⟩, hrest, ⟨⟩⟩
      exact ⟨name, body, span, rest, rfl, rfl, hrest⟩
    · rintro ⟨_, _, _, rest, ⟨⟩, rfl, hrest⟩
      exact ⟨(rest, v), hrest, rfl⟩

/-- The flattened tree has the variables of all nodes to which paths lead. -/
theorem mem_flattened_iff {body : List SpaceItem} {path : List String} {v : Variable} :
    (path, v) ∈ flattened body ↔ ∃ inner, Leads body path inner ∧ .variable v ∈ inner := by
  induction path generalizing body with
  | nil =>
    have hnone : ([], v) ∉ SpaceItem.flattenAll body := by
      intro hmem
      obtain ⟨item, -, hitem⟩ := SpaceItem.mem_flattenAll.mp hmem
      obtain ⟨_, _, _, _, -, hcons, -⟩ := SpaceItem.mem_flatten.mp hitem
      cases hcons
    simp [flattened, hnone, mem_vars_iff, Leads]
  | cons child path ih =>
    have hbelow : (child :: path, v) ∈ flattened body ↔
        (child :: path, v) ∈ SpaceItem.flattenAll body := by simp [flattened]
    rw [hbelow, SpaceItem.mem_flattenAll]
    constructor
    · rintro ⟨item, hitem, hmem⟩
      obtain ⟨_, between, span, _, rfl, ⟨⟩, hrest⟩ := SpaceItem.mem_flatten.mp hmem
      obtain ⟨inner, hleads, hv⟩ := ih.mp hrest
      exact ⟨inner, ⟨between, span, hitem, hleads⟩, hv⟩
    · rintro ⟨inner, ⟨between, span, hitem, hleads⟩, hv⟩
      exact ⟨_, hitem, SpaceItem.mem_flatten.mpr
        ⟨child, between, span, path, rfl, rfl, ih.mpr ⟨inner, hleads, hv⟩⟩⟩

end Source

/-! ## Registrations -/

/-- The dotted name of a variable below a root. -/
def dottedName (root : String) (entry : List String × Variable) : String :=
  Text.join "." (root :: (entry.1 ++ [entry.2.name]))

/-- The registration of a variable of a flattened tree. -/
def flatRegistration (root : String) (entry : List String × Variable) : Stmt :=
  .registerVariable (dottedName root entry) entry.2.initializer false

theorem flatRegistration_child (root child : String) (path : List String) (v : Variable) :
    flatRegistration (root ++ "." ++ child) (path, v) =
      flatRegistration root (child :: path, v) := by
  unfold flatRegistration dottedName
  rw [Text.join_append_cons]
  rfl

mutual

theorem childRegistrations_eq (root : String) : ∀ item : SpaceItem,
    childRegistrations root item = item.flatten.map (flatRegistration root)
  | .variable _ => by rw [childRegistrations, SpaceItem.flatten]; rfl
  | .space name body span => by
    have hvars : (SpaceItem.vars body).map (registration (root ++ "." ++ name)) =
        ((SpaceItem.vars body).map (([], ·))).map (flatRegistration (root ++ "." ++ name)) := by
      rw [List.map_map]
      rfl
    rw [childRegistrations, allRegistrations_eq (root ++ "." ++ name) body, hvars,
      ← List.map_append, SpaceItem.flatten, List.map_map]
    exact List.map_congr_left fun entry _ => flatRegistration_child root name entry.1 entry.2

theorem allRegistrations_eq (root : String) : ∀ items : List SpaceItem,
    allRegistrations root items = (SpaceItem.flattenAll items).map (flatRegistration root)
  | [] => by rw [allRegistrations, SpaceItem.flattenAll]; rfl
  | item :: rest => by
    rw [allRegistrations, SpaceItem.flattenAll, List.map_append, childRegistrations_eq root item,
      allRegistrations_eq root rest]

end

/-- A storage registers the variables of the flattened tree in their order. -/
theorem registrations_eq (root : String) (body : List SpaceItem) :
    registrations root body = (Source.flattened body).map (flatRegistration root) := by
  unfold registrations Source.flattened
  rw [List.map_append, List.map_map, allRegistrations_eq]
  rfl

end Watchtower
