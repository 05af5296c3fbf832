-- What declarations declare: the statements of a namespace at any depth, and the members of a
-- monitor.
import Watchtower.Source.Declaration

namespace Watchtower.Source

/-! ## Namespaces -/

/-- The name of a variable or a child. -/
def SpaceItem.name : SpaceItem → String
  | .variable decl => decl.name
  | .space name _ _ => name

mutual

/-- A statement and all statements in it. -/
def SpaceItem.within : SpaceItem → List SpaceItem
  | .variable decl => [.variable decl]
  | .space name body span => .space name body span :: SpaceItem.allWithin body

/-- The statements at any depth. -/
def SpaceItem.allWithin : List SpaceItem → List SpaceItem
  | [] => []
  | item :: rest => item.within ++ SpaceItem.allWithin rest

end

/-- A variable of this name is declared at the node to which a path of children leads. -/
def Declares : List SpaceItem → List String → String → Prop
  | body, [], name => ∃ v, .variable v ∈ body ∧ v.name = name
  | body, child :: path, name =>
    ∃ inner span, .space child inner span ∈ body ∧ Declares inner path name

/-- A path of children leads from the statements of a node to those of another. -/
def Leads : List SpaceItem → List String → List SpaceItem → Prop
  | body, [], inner => inner = body
  | body, child :: path, inner =>
    ∃ between span, .space child between span ∈ body ∧ Leads between path inner

theorem SpaceItem.within_subset_allWithin {item found : SpaceItem} {body : List SpaceItem}
    (h : item ∈ body) (hfound : found ∈ item.within) : found ∈ SpaceItem.allWithin body := by
  induction body with
  | nil => cases h
  | cons first rest ih =>
    rw [SpaceItem.allWithin, List.mem_append]
    rcases List.mem_cons.mp h with rfl | hrest
    · exact .inl hfound
    · exact .inr (ih hrest)

theorem SpaceItem.mem_within (item : SpaceItem) : item ∈ item.within := by
  rcases item with decl | ⟨name, body, span⟩
  · simp [SpaceItem.within]
  · simp [SpaceItem.within]

theorem SpaceItem.mem_allWithin {item : SpaceItem} {body : List SpaceItem} (h : item ∈ body) :
    item ∈ SpaceItem.allWithin body :=
  within_subset_allWithin h item.mem_within

/-- The names that lead to a declared variable are names of statements. -/
theorem Declares.names {body : List SpaceItem} {path : List String} {name : String}
    (h : Declares body path name) :
    ∀ s ∈ path ++ [name], ∃ item ∈ SpaceItem.allWithin body, item.name = s := by
  induction path generalizing body with
  | nil =>
    obtain ⟨v, hv, rfl⟩ := h
    intro s hs
    rw [List.nil_append, List.mem_singleton] at hs
    exact ⟨_, SpaceItem.mem_allWithin hv, hs.symm⟩
  | cons child path ih =>
    obtain ⟨inner, span, hmem, hrest⟩ := h
    intro s hs
    rcases List.mem_cons.mp hs with rfl | hs
    · exact ⟨_, SpaceItem.mem_allWithin hmem, rfl⟩
    · obtain ⟨item, hitem, hname⟩ := ih hrest s hs
      refine ⟨item, SpaceItem.within_subset_allWithin hmem ?_, hname⟩
      rw [SpaceItem.within]
      exact List.mem_cons_of_mem _ hitem

theorem Leads.mem_allWithin {body inner : List SpaceItem} {path : List String} {item : SpaceItem}
    (h : Leads body path inner) (hitem : item ∈ inner) : item ∈ SpaceItem.allWithin body := by
  induction path generalizing body with
  | nil =>
    cases h
    exact SpaceItem.mem_allWithin hitem
  | cons child path ih =>
    obtain ⟨between, span, hmem, hrest⟩ := h
    apply SpaceItem.within_subset_allWithin hmem
    rw [SpaceItem.within]
    exact List.mem_cons_of_mem _ (ih hrest)

/-- A variable is declared where a path leads to a node with it. -/
theorem declares_iff_leads {body : List SpaceItem} {path : List String} {name : String} :
    Declares body path name ↔
      ∃ inner v, Leads body path inner ∧ .variable v ∈ inner ∧ v.name = name := by
  induction path generalizing body with
  | nil => simp [Declares, Leads]
  | cons child path ih =>
    simp only [Declares, Leads, ih]
    constructor
    · rintro ⟨between, span, hmem, inner, v, hleads, hv⟩
      exact ⟨inner, v, ⟨between, span, hmem, hleads⟩, hv⟩
    · rintro ⟨inner, v, ⟨between, span, hmem, hleads⟩, hv⟩
      exact ⟨between, span, hmem, inner, v, hleads, hv⟩

/-! ## Monitors -/

/-- The name of a statement of a monitor. A code block has none. -/
def MonitorItem.name? : MonitorItem → Option String
  | .variable decl => some decl.name
  | .event decl => some decl.name
  | .handler decl => some decl.name
  | .code _ => none

/-- The variable of a statement. -/
def MonitorItem.variable? : MonitorItem → Option Variable
  | .variable decl => some decl
  | _ => none

/-- The event of a statement. -/
def MonitorItem.event? : MonitorItem → Option EventDecl
  | .event decl => some decl
  | _ => none

/-- The handler of a statement. -/
def MonitorItem.handler? : MonitorItem → Option HandlerDecl
  | .handler decl => some decl
  | _ => none

/-! ## Declarations -/

/-- All names that a declaration declares. -/
def Declaration.names : Declaration → List String
  | .monitor decl => decl.name :: decl.body.filterMap MonitorItem.name?
  | .space decl => decl.name :: (SpaceItem.allWithin decl.body).map SpaceItem.name

/-- All variables that a declaration declares. -/
def Declaration.variables : Declaration → List Variable
  | .monitor decl => decl.body.filterMap MonitorItem.variable?
  | .space decl => SpaceItem.vars (SpaceItem.allWithin decl.body)

/-- The expression is a literal. -/
def Expr.IsLiteral (e : Expr) : Prop := ∃ literal, e = .literal literal

instance (e : Expr) : Decidable e.IsLiteral :=
  match e with
  | .literal literal => .isTrue ⟨literal, rfl⟩
  | .root .. | .member .. | .source _ => .isFalse nofun

end Watchtower.Source
