-- What the checks say of the names in a namespace. At every node of the tree the statements have
-- spellings of their own, none of them that of a member which all namespaces have, and no child
-- has the name of a getter or a setter.
import Watchtower.Proofs.Blueprint.Monitor

namespace Watchtower

open Source (SpaceItem Leads)

theorem names_vars_sublist (body : List SpaceItem) :
    ((SpaceItem.vars body).map (·.name)).Sublist (body.map SpaceItem.name) := by
  induction body with
  | nil => simp [SpaceItem.vars]
  | cons item rest ih =>
    rcases item with decl | ⟨name, inner, span⟩
    · exact ih.cons_cons _
    · exact ih.cons _

/-- The statements of a node have spellings of their own, none of which is reserved, and no child
has the name of the getter or the setter of a variable. -/
structure AreAccessible (body : List SpaceItem) : Prop where
  distinct : (body.map (Naming.snake ∘ SpaceItem.name)).Nodup
  free : ∀ item ∈ body, Naming.snake item.name ∉ Members.spaceReserved
  apart : ∀ name inner span, .space name inner span ∈ body →
    Members.shadows (SpaceItem.vars body) name = false

/-- The statements of a node pass their checks, and so do the names of the getters and setters
beside them. -/
def PassChecks (scope : String) (body : List SpaceItem) : Prop :=
  Members.checkItems scope [] body = .ok () ∧ Members.checkAccessors scope body = .ok ()

theorem checkItem_eq_ok {scope : String} {seen seen' : List String} {item : SpaceItem}
    (h : Members.checkItem scope seen item = .ok seen') :
    seen' = Naming.snake item.name :: seen ∧ Naming.snake item.name ∉ Members.spaceReserved ∧
      Naming.snake item.name ∉ seen ∧
      ∀ name inner span, item = .space name inner span → ∃ scope', PassChecks scope' inner := by
  rcases item with decl | ⟨name, body, span⟩
  · rw [Members.checkItem] at h
    obtain ⟨hseen, hfree, hnew⟩ := insert_eq_ok h
    exact ⟨hseen, hfree, hnew, by simp⟩
  · rw [Members.checkItem] at h
    obtain ⟨added, hinsert, hrest⟩ := bind_eq_ok.mp h
    obtain ⟨_, hbody, hrest⟩ := bind_eq_ok.mp hrest
    obtain ⟨_, haccessors, hok⟩ := bind_eq_ok.mp hrest
    cases hok
    obtain ⟨hseen, hfree, hnew⟩ := insert_eq_ok hinsert
    refine ⟨hseen, hfree, hnew, ?_⟩
    rintro _ _ _ ⟨⟩
    exact ⟨_, hbody, haccessors⟩

/-- Statements that pass their checks have spellings that were not seen before them, and none
twice. -/
theorem checkItems_eq_ok {scope : String} {seen : List String} {items : List SpaceItem}
    (h : Members.checkItems scope seen items = .ok ()) :
    (∀ item ∈ items, Naming.snake item.name ∉ Members.spaceReserved ∧
      Naming.snake item.name ∉ seen) ∧
      (items.map (Naming.snake ∘ SpaceItem.name)).Nodup ∧
      ∀ name inner span, .space name inner span ∈ items → ∃ scope', PassChecks scope' inner := by
  induction items generalizing seen with
  | nil => simp
  | cons item rest ih =>
    rw [Members.checkItems] at h
    obtain ⟨seen', hitem, hrest⟩ := bind_eq_ok.mp h
    obtain ⟨rfl, hfree, hnew, hinner⟩ := checkItem_eq_ok hitem
    obtain ⟨hothers, hnodup, hdeep⟩ := ih hrest
    refine ⟨?_, ?_, ?_⟩
    · intro other hother
      rcases List.mem_cons.mp hother with rfl | hmem
      · exact ⟨hfree, hnew⟩
      · obtain ⟨hreserved, hseen⟩ := hothers other hmem
        exact ⟨hreserved, fun h => hseen (List.mem_cons_of_mem _ h)⟩
    · rw [List.map_cons, List.nodup_cons]
      refine ⟨?_, hnodup⟩
      intro hmem
      obtain ⟨other, hother, hname⟩ := List.mem_map.mp hmem
      have hname : Naming.snake other.name = Naming.snake item.name := hname
      exact (hothers other hother).2 (by simp [hname])
    · intro name inner span hmem
      rcases List.mem_cons.mp hmem with heq | hmem
      · exact hinner name inner span heq.symm
      · exact hdeep name inner span hmem

theorem PassChecks.areAccessible {scope : String} {body : List SpaceItem}
    (h : PassChecks scope body) : AreAccessible body := by
  obtain ⟨hitems, haccessors⟩ := h
  obtain ⟨hnew, hdistinct, -⟩ := checkItems_eq_ok hitems
  refine ⟨hdistinct, fun item hitem => (hnew item hitem).1, ?_⟩
  intro name inner span hchild
  have hpassed := forM_eq_ok.mp haccessors _ hchild
  simp only at hpassed
  split at hpassed
  · cases hpassed
  · rename_i hshadows
    simpa using hshadows

/-- What passes its checks does so at every node. -/
theorem PassChecks.node {scope : String} {body inner : List SpaceItem} {path : List String}
    (h : PassChecks scope body) (hleads : Leads body path inner) :
    ∃ scope', PassChecks scope' inner := by
  induction path generalizing body scope with
  | nil =>
    cases hleads
    exact ⟨scope, h⟩
  | cons child path ih =>
    obtain ⟨between, span, hmem, hrest⟩ := hleads
    obtain ⟨scope', hbetween⟩ := (checkItems_eq_ok h.1).2.2 child between span hmem
    exact ih hbetween hrest

/-- At every node of a namespace that passes its checks the statements are accessible. -/
theorem areAccessible_of_checkSpace {decl : Source.Namespace}
    (hchecked : Members.checkSpace decl = .ok ()) {path : List String} {inner : List SpaceItem}
    (hleads : Leads decl.body path inner) : AreAccessible inner := by
  obtain ⟨_, hitems, haccessors⟩ := bind_eq_ok.mp hchecked
  have hroot : PassChecks decl.name decl.body := ⟨hitems, haccessors⟩
  obtain ⟨scope, hinner⟩ := hroot.node hleads
  exact hinner.areAccessible

end Watchtower
