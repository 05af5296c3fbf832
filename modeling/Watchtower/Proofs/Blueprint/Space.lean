-- The blueprints of namespaces: what their storages register.
import Watchtower.Blueprint.Space
import Watchtower.Proofs.Source.Declared
import Watchtower.Proofs.Text.Pieces

namespace Watchtower

open Source (SpaceItem Leads)

theorem mem_vars_iff {body : List SpaceItem} {v : Source.Variable} :
    v ∈ SpaceItem.vars body ↔ .variable v ∈ body := by
  constructor
  · intro h
    obtain ⟨item, hitem, heq⟩ := List.mem_filterMap.mp h
    split at heq <;> cases heq
    exact hitem
  · intro h
    exact List.mem_filterMap.mpr ⟨_, h, rfl⟩

/-- The statement registers a variable of the tree under the names that lead to it, with dots. -/
def Registers (path : String) (body : List SpaceItem) (stmt : Stmt) : Prop :=
  ∃ names inner v, Leads body names inner ∧ .variable v ∈ inner ∧
    stmt = .registerVariable (Text.join "." (path :: (names ++ [v.name]))) v.initializer false

theorem registers_registration {path : String} {body : List SpaceItem} {v : Source.Variable}
    (h : v ∈ SpaceItem.vars body) : Registers path body (registration path v) :=
  ⟨[], body, v, rfl, mem_vars_iff.mp h, rfl⟩

theorem Registers.of_child {path child : String} {body inner : List SpaceItem}
    {span : Option Source.Span} {stmt : Stmt} (hchild : .space child inner span ∈ body)
    (h : Registers (path ++ "." ++ child) inner stmt) : Registers path body stmt := by
  obtain ⟨names, last, v, hleads, hv, rfl⟩ := h
  refine ⟨child :: names, last, v, ⟨inner, span, hchild, hleads⟩, hv, ?_⟩
  rw [Text.join_append_cons]
  rfl

mutual

theorem registers_of_mem_child {path : String} {stmt : Stmt} : ∀ item : SpaceItem,
    stmt ∈ childRegistrations path item → ∃ child body span,
      item = .space child body span ∧ Registers (path ++ "." ++ child) body stmt
  | .variable _, h => by simp [childRegistrations] at h
  | .space name body span, h => by
    rw [childRegistrations, List.mem_append] at h
    refine ⟨name, body, span, rfl, ?_⟩
    rcases h with hvar | hdeep
    · obtain ⟨v, hv, rfl⟩ := List.mem_map.mp hvar
      exact registers_registration hv
    · obtain ⟨child, inner, span, hchild, hinner⟩ := registers_of_mem_all body hdeep
      exact hinner.of_child hchild

theorem registers_of_mem_all {path : String} {stmt : Stmt} : ∀ items : List SpaceItem,
    stmt ∈ allRegistrations path items → ∃ child body span,
      .space child body span ∈ items ∧ Registers (path ++ "." ++ child) body stmt
  | [], h => by simp [allRegistrations] at h
  | item :: rest, h => by
    rw [allRegistrations, List.mem_append] at h
    rcases h with hfirst | hrest
    · obtain ⟨child, body, span, rfl, hstmt⟩ := registers_of_mem_child item hfirst
      exact ⟨child, body, span, List.mem_cons_self, hstmt⟩
    · obtain ⟨child, body, span, hchild, hstmt⟩ := registers_of_mem_all rest hrest
      exact ⟨child, body, span, List.mem_cons_of_mem _ hchild, hstmt⟩

end

theorem mem_allRegistrations {path child : String} {items inner : List SpaceItem}
    {span : Option Source.Span} {stmt : Stmt} (hchild : .space child inner span ∈ items)
    (h : stmt ∈ registrations (path ++ "." ++ child) inner) :
    stmt ∈ allRegistrations path items := by
  induction items with
  | nil => cases hchild
  | cons item rest ih =>
    rw [allRegistrations, List.mem_append]
    rcases List.mem_cons.mp hchild with rfl | hrest
    · exact .inl h
    · exact .inr (ih hrest)

/-- A storage registers the variables of its tree, and nothing else. -/
theorem mem_registrations_iff {path : String} {body : List SpaceItem} {stmt : Stmt} :
    stmt ∈ registrations path body ↔ Registers path body stmt := by
  constructor
  · intro h
    rcases List.mem_append.mp h with hvar | hdeep
    · obtain ⟨v, hv, rfl⟩ := List.mem_map.mp hvar
      exact registers_registration hv
    · obtain ⟨child, inner, span, hchild, hinner⟩ := registers_of_mem_all body hdeep
      exact hinner.of_child hchild
  · -- Down the path: the variable stands at its end, among the variables of the last node.
    rintro ⟨names, inner, v, hleads, hv, rfl⟩
    induction names generalizing path body with
    | nil =>
      cases hleads
      exact List.mem_append_left _ (List.mem_map_of_mem (mem_vars_iff.mpr hv))
    | cons child names ih =>
      obtain ⟨between, span, hchild, hrest⟩ := hleads
      apply List.mem_append_right
      apply mem_allRegistrations hchild
      rw [List.cons_append, ← Text.join_append_cons]
      exact ih hrest

end Watchtower
