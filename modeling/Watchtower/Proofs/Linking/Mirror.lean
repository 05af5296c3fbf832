-- A linked namespace mirrors its declaration. The tree is lowered to proxies and to a storage,
-- its shape is read off getters and setters, and names are joined and cut again on the way; what
-- monitors see in the end is what was declared, at every node of the tree.
import Mathlib.Data.List.Basic
import Watchtower.Proofs.Blueprint.Checked
import Watchtower.Proofs.Linking.Space
import Watchtower.Proofs.Live.Store

namespace Watchtower

open Source (SpaceItem Leads)
open Text (Undotted)

/-! ## Names -/

namespace Text

/-- The last name of a path with dots is the one that was joined last. -/
theorem lastDotted_append {name : String} (h : Undotted name) (path : String) :
    lastDotted (path ++ "." ++ name) = name := by
  have hname : splitList (· == '.') name.toList = [name.toList] := splitList_of_not_mem h
  have htext : (path ++ "." ++ name).toList = path.toList ++ '.' :: name.toList := by simp
  unfold lastDotted lastPiece split
  rw [htext, splitList_append_cons (by rfl), hname]
  simp [List.getLastD_eq_getLast?]

end Text

/-- At every node of a tree the statements have names of their own, and no name has dots. -/
structure IsTidyTree (body : List SpaceItem) : Prop where
  distinct : ∀ path inner, Leads body path inner → (inner.map SpaceItem.name).Nodup
  undotted : ∀ path inner, Leads body path inner → ∀ item ∈ inner, Undotted item.name

theorem IsTidyTree.child {body inner : List SpaceItem} {name : String} {span : Option Source.Span}
    (h : IsTidyTree body) (hchild : .space name inner span ∈ body) :
    Undotted name ∧ IsTidyTree inner := by
  refine ⟨h.undotted [] body rfl _ hchild, ?_, ?_⟩
  · intro path last hleads
    exact h.distinct (name :: path) last ⟨inner, span, hchild, hleads⟩
  · intro path last hleads
    exact h.undotted (name :: path) last ⟨inner, span, hchild, hleads⟩

/-- What is tidy is so at each of its nodes. -/
theorem IsTidyTree.node {body inner : List SpaceItem} {path : List String} (h : IsTidyTree body)
    (hleads : Leads body path inner) : IsTidyTree inner := by
  induction path generalizing body with
  | nil =>
    cases hleads
    exact h
  | cons child path ih =>
    obtain ⟨between, span, hmem, hrest⟩ := hleads
    exact ih (h.child hmem).2 hrest

theorem IsTidyTree.item_unique {body : List SpaceItem} (h : IsTidyTree body)
    {item item' : SpaceItem} (hitem : item ∈ body) (hitem' : item' ∈ body)
    (hname : item.name = item'.name) : item = item' := by
  apply eq_of_nodup_filterMap (f := some ∘ SpaceItem.name) ?_ hitem hitem' rfl
    (congrArg some hname.symm)
  rw [List.filterMap_eq_map]
  exact h.distinct [] body rfl

theorem IsTidyTree.leads_unique {body inner inner' : List SpaceItem} {path : List String}
    (htidy : IsTidyTree body) (h : Leads body path inner) (h' : Leads body path inner') :
    inner = inner' := by
  induction path generalizing body with
  | nil => exact h.trans h'.symm
  | cons child path ih =>
    obtain ⟨between, span, hmem, hrest⟩ := h
    obtain ⟨between', span', hmem', hrest'⟩ := h'
    cases htidy.item_unique hmem hmem' rfl
    exact ih (htidy.child hmem).2 hrest hrest'

/-- A namespace that passes its checks, and has no name with dots, is tidy. -/
theorem isTidyTree_of_checkSpace {decl : Source.Namespace}
    (hchecked : Members.checkSpace decl = .ok ())
    (hdots : ∀ name ∈ (Source.Declaration.space decl).names, Undotted name) :
    IsTidyTree decl.body := by
  constructor
  · intro path inner hleads
    have hspelled := (areAccessible_of_checkSpace hchecked hleads).distinct
    rw [← List.map_map] at hspelled
    exact nodup_of_map hspelled
  · intro path inner hleads item hitem
    apply hdots
    exact List.mem_cons_of_mem _ (List.mem_map_of_mem (hleads.mem_allWithin hitem))

theorem IsTidyTree.vars_nodup {body : List SpaceItem} (h : IsTidyTree body) :
    ((SpaceItem.vars body).map (·.name)).Nodup :=
  (h.distinct [] body rfl).sublist (names_vars_sublist body)

/-! ## Shapes -/

namespace Linking

open Live

mutual

/-- The shape of a child, as it is declared. A variable has none. -/
def itemShapes : SpaceItem → List Shape
  | .variable _ => []
  | .space name body _ =>
    [⟨name, (SpaceItem.vars body).map fun v => (v.name, v.writable), declaredShapes body⟩]

/-- The shapes of the children of a node, as they are declared. -/
def declaredShapes : List SpaceItem → List Shape
  | [] => []
  | item :: rest => itemShapes item ++ declaredShapes rest

end

/-- The shape of a node with these statements. -/
def declaredShape (name : String) (body : List SpaceItem) : Shape :=
  ⟨name, (SpaceItem.vars body).map fun v => (v.name, v.writable), declaredShapes body⟩

theorem mem_declaredShapes {shape : Shape} {body : List SpaceItem} :
    shape ∈ declaredShapes body ↔
      ∃ name inner span, .space name inner span ∈ body ∧ shape = declaredShape name inner := by
  induction body with
  | nil => simp [declaredShapes]
  | cons item rest ih =>
    rw [declaredShapes, List.mem_append, ih]
    rcases item with decl | ⟨first, inner, span⟩
    · simp [itemShapes]
    · rw [itemShapes, List.mem_singleton]
      constructor
      · rintro (rfl | ⟨name, body, span, hmem, hshape⟩)
        · exact ⟨first, inner, span, List.mem_cons_self, rfl⟩
        · exact ⟨name, body, span, List.mem_cons_of_mem _ hmem, hshape⟩
      · rintro ⟨name, body, span, hmem, rfl⟩
        rcases List.mem_cons.mp hmem with heq | hmem
        · cases heq
          exact .inl rfl
        · exact .inr ⟨name, body, span, hmem, rfl⟩

theorem names_declaredShapes_sublist (body : List SpaceItem) :
    ((declaredShapes body).map (·.name)).Sublist (body.map SpaceItem.name) := by
  induction body with
  | nil => simp [declaredShapes]
  | cons item rest ih =>
    rw [declaredShapes, List.map_append, List.map_cons]
    rcases item with decl | ⟨name, inner, span⟩
    · exact ih.cons _
    · exact ih.cons_cons _

/-- The method writes the variable of this name. -/
def writes (name : String) (m : Method) : Bool :=
  match m.body with
  | [.setVariable written] => written == name
  | _ => false

/-- The variable that a method reads, with whether one of the methods writes it. -/
def variableOf? (methods : List Method) (m : Method) : Option (String × Bool) :=
  match m.body with
  | [.getVariable name] => some (Text.lastDotted name, methods.any (writes name))
  | _ => none

theorem shapeVariables_eq (methods : List Method) :
    shapeVariables methods = methods.filterMap (variableOf? methods) := rfl

/-- A variable has a setter exactly where it is writable: a setter of another has another name. -/
theorem any_writes_accessors {path : String} {vars : List Source.Variable}
    (hnames : (vars.map (·.name)).Nodup) {v : Source.Variable} (hv : v ∈ vars) :
    (vars.flatMap (accessors path)).any (writes (path ++ "." ++ v.name)) = v.writable := by
  rw [List.any_flatMap, Bool.eq_iff_iff, List.any_eq_true]
  have hown : ∀ other : Source.Variable,
      (accessors path other).any (writes (path ++ "." ++ v.name)) =
        (other.writable && other.name == v.name) := by
    intro other
    have hsame : (path ++ "." ++ other.name == path ++ "." ++ v.name) = (other.name == v.name) := by
      rw [Bool.eq_iff_iff, beq_iff_eq, beq_iff_eq, String.append_right_inj]
    unfold accessors
    cases other.writable <;> simp [writes, hsame]
  constructor
  · rintro ⟨other, hother, hwrites⟩
    rw [hown, Bool.and_eq_true, beq_iff_eq] at hwrites
    have hsame : other = v := by
      apply eq_of_nodup_filterMap (f := some ∘ (·.name)) ?_ hother hv (congrArg some hwrites.2) rfl
      rwa [List.filterMap_eq_map]
    rw [← hsame]
    exact hwrites.1
  · intro hwritable
    refine ⟨v, hv, ?_⟩
    simp [hown, hwritable]

/-- The variables of a node are found again in its methods. -/
theorem shapeVariables_accessors {path : String} {vars : List Source.Variable}
    {others : List Method} (hnames : (vars.map (·.name)).Nodup)
    (hdots : ∀ v ∈ vars, Undotted v.name)
    (hothers : ∀ m ∈ others, ∃ field, m.body = [.returnField field]) :
    shapeVariables (vars.flatMap (accessors path) ++ others) =
      vars.map fun v => (v.name, v.writable) := by
  generalize hmethods : vars.flatMap (accessors path) ++ others = methods
  have hwrites : ∀ v ∈ vars, methods.any (writes (path ++ "." ++ v.name)) = v.writable := by
    intro v hv
    have hnone : others.any (writes (path ++ "." ++ v.name)) = false := by
      rw [List.any_eq_false]
      intro m hm
      obtain ⟨field, hbody⟩ := hothers m hm
      simp [writes, hbody]
    rw [← hmethods, List.any_append, any_writes_accessors hnames hv, hnone, Bool.or_false]
  have hgetters : ∀ v ∈ vars,
      (accessors path v).filterMap (variableOf? methods) = [(v.name, v.writable)] := by
    intro v hv
    unfold accessors
    split <;> simp [variableOf?, Text.lastDotted_append (hdots v hv), hwrites v hv]
  have hrest : others.filterMap (variableOf? methods) = [] := by
    rw [List.filterMap_eq_nil_iff]
    intro m hm
    obtain ⟨field, hbody⟩ := hothers m hm
    simp [variableOf?, hbody]
  rw [shapeVariables_eq]
  calc methods.filterMap (variableOf? methods)
      = (vars.flatMap (accessors path) ++ others).filterMap (variableOf? methods) := by
        rw [hmethods]
    _ = vars.flatMap fun v => (accessors path v).filterMap (variableOf? methods) := by
        rw [List.filterMap_append, hrest, List.append_nil, List.filterMap_flatMap]
    _ = vars.map fun v => (v.name, v.writable) := by
        rw [List.map_eq_flatMap]
        exact List.flatMap_congr hgetters

theorem childShapes_append (first second : List Blueprint) :
    childShapes (first ++ second) = childShapes first ++ childShapes second := by
  induction first with
  | nil => simp [childShapes]
  | cons b rest ih =>
    obtain ⟨type, qualifiedName, kind, doc, fields, constructor, methods, nested⟩ := b
    rw [List.cons_append]
    cases kind <;> simp [childShapes, ih]

/-- The shape of the proxy of a node, where those of its children are as declared. -/
theorem shapeOf_proxy {root path type qualifiedName : String} {body : List SpaceItem}
    (h : IsTidyTree body) (name : String)
    (hchildren : childShapes ((allProxies root path type qualifiedName body).map (·.2)) =
      declaredShapes body) :
    shapeOf name (.proxy root path type qualifiedName (SpaceItem.vars body)
      (allProxies root path type qualifiedName body)) = declaredShape name body := by
  rw [Blueprint.proxy, shapeOf, hchildren, shapeVariables_accessors h.vars_nodup, declaredShape]
  · intro v hv
    exact h.undotted [] body rfl _ (mem_vars_iff.mp hv)
  · intro m hm
    obtain ⟨⟨child, b⟩, -, rfl⟩ := List.mem_map.mp hm
    exact ⟨child, rfl⟩

mutual

theorem childShapes_childProxies (root path type qualifiedName : String) : ∀ item : SpaceItem,
    (∀ name inner span, item = .space name inner span → Undotted name ∧ IsTidyTree inner) →
      childShapes ((childProxies root path type qualifiedName item).map (·.2)) = itemShapes item
  | .variable _, _ => by
    rw [childProxies, itemShapes]
    rfl
  | .space name body span, h => by
    obtain ⟨hname, hbody⟩ := h name body span rfl
    have hshape := shapeOf_proxy hbody name (childShapes_allProxies root (path ++ "." ++ name)
      (type ++ Naming.pascal name) (qualifiedName ++ "." ++ name) body
      fun name inner span hmem => hbody.child hmem)
    rw [childProxies, itemShapes]
    rw [List.map_singleton, Blueprint.proxy, childShapes, childShapes, ← Blueprint.proxy,
      Text.lastDotted_append hname]
    exact congrArg (fun shape => [shape]) hshape

theorem childShapes_allProxies (root path type qualifiedName : String) : ∀ items : List SpaceItem,
    (∀ name inner span, .space name inner span ∈ items → Undotted name ∧ IsTidyTree inner) →
      childShapes ((allProxies root path type qualifiedName items).map (·.2)) =
        declaredShapes items
  | [], _ => by
    rw [allProxies, declaredShapes]
    rfl
  | item :: rest, h => by
    rw [allProxies, declaredShapes, List.map_append, childShapes_append,
      childShapes_childProxies _ _ _ _ item fun name inner span heq =>
        h name inner span (heq ▸ List.mem_cons_self),
      childShapes_allProxies _ _ _ _ rest fun name inner span hmem =>
        h name inner span (List.mem_cons_of_mem _ hmem)]

end

/-- The shape that is read off the blueprint of a namespace is the declared one. -/
theorem shapeOf_ofSpace (package : Option String) {decl : Source.Namespace}
    (h : IsTidyTree decl.body) :
    shapeOf decl.name (Blueprint.ofSpace package decl) = declaredShape decl.name decl.body := by
  rw [← shapeOf_proxy h decl.name (childShapes_allProxies decl.name decl.name
    (Naming.pascal decl.name) (Source.qualify package (Naming.pascal decl.name)) decl.body
    fun name inner span hmem => h.child hmem)]
  rw [Blueprint.ofSpace, Blueprint.proxy, shapeOf, shapeOf, childShapes]
  rintro _ _ ⟨⟩

/-! ## Nodes -/

theorem mem_buildAll_iff {parent : String} {shapes : List Shape} {name : String} {p : Proxy} :
    (name, p) ∈ Proxy.buildAll parent shapes ↔
      ∃ shape ∈ shapes, shape.name = name ∧ p = Proxy.build (parent ++ "." ++ name) shape := by
  refine ⟨mem_buildAll, ?_⟩
  rintro ⟨shape, hmem, rfl, rfl⟩
  induction shapes with
  | nil => cases hmem
  | cons first rest ih =>
    obtain ⟨name, vars, children⟩ := first
    rw [Proxy.buildAll]
    rcases List.mem_cons.mp hmem with rfl | hmem
    · exact List.mem_cons_self
    · exact List.mem_cons_of_mem _ (ih hmem)

theorem names_buildAll (parent : String) (shapes : List Shape) :
    (Proxy.buildAll parent shapes).map (·.1) = shapes.map (·.name) := by
  induction shapes with
  | nil => rfl
  | cons shape rest ih =>
    obtain ⟨name, vars, children⟩ := shape
    rw [Proxy.buildAll, List.map_cons, List.map_cons, ih]

/-- The children of a node are those that are declared in it. -/
theorem child_build_iff {qualifiedName name child : String} {body : List SpaceItem} {p : Proxy}
    (h : IsTidyTree body) :
    (Proxy.build qualifiedName (declaredShape name body)).child? child = some p ↔
      ∃ inner span, .space child inner span ∈ body ∧
        p = Proxy.build (qualifiedName ++ "." ++ child) (declaredShape child inner) := by
  have hnames : ((Proxy.buildAll qualifiedName (declaredShapes body)).map (·.1)).Nodup := by
    rw [names_buildAll]
    exact (h.distinct [] body rfl).sublist (names_declaredShapes_sublist body)
  rw [declaredShape, Proxy.build, Proxy.child?, Sorted.lookup_ofList_iff hnames, mem_buildAll_iff]
  constructor
  · rintro ⟨shape, hshape, hname, rfl⟩
    obtain ⟨name', inner, span, hmem, rfl⟩ := mem_declaredShapes.mp hshape
    cases hname
    exact ⟨inner, span, hmem, rfl⟩
  · rintro ⟨inner, span, hmem, rfl⟩
    exact ⟨_, mem_declaredShapes.mpr ⟨child, inner, span, hmem, rfl⟩, rfl, rfl⟩

/-- Names lead from a node exactly where they lead in its declaration, and to the node that is
declared there. -/
theorem descend_build_iff {qualifiedName name : String} {body : List SpaceItem}
    {path : List String} {node : Proxy} (h : IsTidyTree body) :
    (Proxy.build qualifiedName (declaredShape name body)).descend? path = some node ↔
      ∃ inner, Leads body path inner ∧ node = Proxy.build (Text.join "." (qualifiedName :: path))
        (declaredShape (path.getLastD name) inner) := by
  induction path generalizing qualifiedName name body with
  | nil =>
    rw [Proxy.descend?, Option.some.injEq]
    constructor
    · rintro rfl
      exact ⟨body, rfl, rfl⟩
    · rintro ⟨inner, rfl, rfl⟩
      rfl
  | cons child rest ih =>
    rw [Proxy.descend?, Option.bind_eq_some_iff]
    constructor
    · rintro ⟨p, hchild, hrest⟩
      obtain ⟨between, span, hmem, rfl⟩ := (child_build_iff h).mp hchild
      obtain ⟨inner, hleads, rfl⟩ := (ih (h.child hmem).2).mp hrest
      rw [Text.join_append_cons, ← List.getLastD_cons]
      exact ⟨inner, ⟨between, span, hmem, hleads⟩, rfl⟩
    · rintro ⟨inner, ⟨between, span, hmem, hleads⟩, rfl⟩
      refine ⟨_, (child_build_iff h).mpr ⟨between, span, hmem, rfl⟩, ?_⟩
      rw [ih (h.child hmem).2, Text.join_append_cons]
      exact ⟨inner, hleads, by rw [List.getLastD_cons]⟩

theorem descend_handle_proxy (h : Handle) (path : List String) :
    (h.descend? path).map (·.proxy) = h.proxy.descend? path := by
  induction path generalizing h with
  | nil => rfl
  | cons child rest ih =>
    rw [Handle.descend?, Proxy.descend?, Handle.child?]
    cases h.proxy.child? child with
    | none => rfl
    | some p => exact ih _

/-- The variables of a node, in the order of their names, are those that are declared in it. -/
theorem vars_of_build {node : Proxy} {qualifiedName name : String} {body : List SpaceItem}
    (h : IsTidyTree body) (hnode : node = Proxy.build qualifiedName (declaredShape name body)) :
    (node.vars.map (·.1)).Pairwise (· < ·) ∧
      (node.vars.map (·.1)).Perm ((SpaceItem.vars body).map (·.name)) ∧
      ∀ x setter, node.vars.lookup x = some setter ↔
        ∃ v, .variable v ∈ body ∧ v.name = x ∧ v.writable = setter := by
  have hnames : (((SpaceItem.vars body).map fun v => (v.name, v.writable)).map (·.1)) =
      (SpaceItem.vars body).map (·.name) := by
    rw [List.map_map]
    rfl
  have hnodup := hnames ▸ h.vars_nodup
  rw [hnode, declaredShape, Proxy.build, ← hnames]
  refine ⟨Sorted.ofList_ascends _, Sorted.names_ofList_perm hnodup, ?_⟩
  intro x setter
  rw [Sorted.lookup_ofList_iff hnodup, List.mem_map]
  simp only [mem_vars_iff, Prod.mk.injEq]

/-! ## Linked namespaces -/

/-- No two variables of a tidy tree are registered under one name. -/
theorem isInitial_unique {bindings : Bindings} {decl : Source.Namespace}
    (htidy : IsTidyTree decl.body)
    (hdots : ∀ name ∈ (Source.Declaration.space decl).names, Undotted name)
    {entry entry' : String × Json × Bool}
    (h : IsInitial bindings decl.name decl.body entry)
    (h' : IsInitial bindings decl.name decl.body entry') (hname : entry.1 = entry'.1) :
    entry = entry' := by
  obtain ⟨path, inner, v, value, hleads, hv, hvalue, rfl⟩ := h
  obtain ⟨path', inner', v', value', hleads', hv', hvalue', rfl⟩ := h'
  have hundotted : ∀ {path inner v}, Leads decl.body path inner → .variable v ∈ inner →
      ∀ s ∈ decl.name :: (path ++ [v.name]), Undotted s := by
    intro path inner v hleads hv s hs
    apply hdots
    rcases List.mem_cons.mp hs with rfl | hs
    · exact List.mem_cons_self
    · have hdeclares := Source.declares_iff_leads.mpr ⟨inner, v, hleads, hv, rfl⟩
      obtain ⟨item, hitem, rfl⟩ := hdeclares.names s hs
      exact List.mem_cons_of_mem _ (List.mem_map_of_mem hitem)
  have hnames := Text.join_dots_inj (by simp) (by simp) (hundotted hleads hv)
    (hundotted hleads' hv') hname
  obtain ⟨rfl, hlast⟩ := List.append_inj' (List.cons.inj hnames).2 rfl
  -- The path leads to one node, and at this node the name is that of one variable.
  cases htidy.leads_unique hleads hleads'
  cases (htidy.node hleads).item_unique hv hv' (List.singleton_inj.mp hlast)
  rw [hvalue] at hvalue'
  cases hvalue'
  rfl

theorem rootHandle_proxy (package : Option String) {decl : Source.Namespace}
    (h : IsTidyTree decl.body) (connection : Nat) :
    (rootHandle package decl connection).proxy =
      Proxy.build decl.name (declaredShape decl.name decl.body) := by
  unfold rootHandle Handle.ofShape Proxy.ofShape
  rw [shapeOf_ofSpace package h]
  rfl

/-- Names lead from a linked root exactly where they lead in its declaration. -/
theorem descend_rootHandle_isSome (package : Option String) {decl : Source.Namespace}
    (h : IsTidyTree decl.body) (connection : Nat) (path : List String) :
    ((rootHandle package decl connection).descend? path).isSome ↔
      ∃ inner, Leads decl.body path inner := by
  rw [← Option.isSome_map, descend_handle_proxy, rootHandle_proxy package h,
    Option.isSome_iff_exists]
  simp only [descend_build_iff h]
  constructor
  · rintro ⟨node, inner, hleads, -⟩
    exact ⟨inner, hleads⟩
  · rintro ⟨inner, hleads⟩
    exact ⟨_, inner, hleads, rfl⟩

/-- The node to which names lead from a linked root is the one that is declared there. -/
theorem descend_rootHandle {package : Option String} {decl : Source.Namespace}
    (h : IsTidyTree decl.body) {connection : Nat} {path : List String} {inner : List SpaceItem}
    {node : Handle} (hleads : Leads decl.body path inner)
    (hnode : (rootHandle package decl connection).descend? path = some node) :
    node.proxy = Proxy.build (Text.join "." (decl.name :: path))
        (declaredShape (path.getLastD decl.name) inner) ∧
      node.connection = some connection := by
  obtain ⟨hproxy, hconnection⟩ := descend_handle hnode
  rw [rootHandle_proxy package h, descend_build_iff h] at hproxy
  obtain ⟨inner', hleads', hbuilt⟩ := hproxy
  cases h.leads_unique hleads hleads'
  exact ⟨hbuilt, hconnection⟩

/-- A variable that is declared at a node is read there from the store of the root, under the
names that lead to it. -/
theorem get_of_declared {package : Option String} {decl : Source.Namespace} {w : World}
    {connection number : Nat} {s : Store} {path : List String} {inner : List SpaceItem}
    {node : Handle} {v : Source.Variable} (h : IsTidyTree decl.body)
    (hconnection : w.connections[connection]? = some (rootConnection package decl.name number))
    (hstore : w.stores[number]? = some s) (hleads : Leads decl.body path inner)
    (hnode : (rootHandle package decl connection).descend? path = some node)
    (hv : .variable v ∈ inner) :
    w.get node v.name = s.get (Text.join "." (decl.name :: (path ++ [v.name]))) := by
  obtain ⟨hproxy, hheld⟩ := descend_rootHandle h hleads hnode
  have hname : node.proxy.qualify v.name = Text.join "." (decl.name :: (path ++ [v.name])) := by
    rw [Proxy.qualify, hproxy, declaredShape, Proxy.build, ← Text.join_snoc (by simp)]
    rfl
  have hvar : node.proxy.readable v.name = .ok (node.proxy.qualify v.name) := by
    obtain ⟨-, -, hlookup⟩ := vars_of_build (h.node hleads) hproxy
    unfold Proxy.readable
    rw [(hlookup v.name v.writable).mpr ⟨v, hv, rfl, rfl⟩]
    rfl
  have hconnected : w.connectionOf node = .ok (rootConnection package decl.name number) := by
    unfold World.connectionOf World.connection?
    rw [hheld, Option.bind_some, hconnection]
    rfl
  unfold World.get World.connectionGet World.storeGet World.store
  rw [hvar, hconnected, ← hname]
  simp only [bind, Except.bind, rootConnection, hstore]

theorem initial_succeeds {bindings : Bindings} {name : String} {e : Source.Expr}
    (h : ¬ e.IsLiteral → ∃ value, bindings.value name = some (.ok value)) :
    Succeeds (bindings.initial name e) := by
  by_cases hliteral : e.IsLiteral
  · obtain ⟨literal, rfl⟩ := hliteral
    exact ⟨_, rfl⟩
  · obtain ⟨value, hvalue⟩ := h hliteral
    refine ⟨value, ?_⟩
    unfold Bindings.initial
    split
    · exact absurd ⟨_, rfl⟩ hliteral
    · rw [hvalue, Option.getD_some]

/-- A namespace that passes its checks and has no names with dots, linked over an empty store with
a value for every initializer that is no literal, is mirrored by what was linked. Names lead from
node to node as in the declaration. Each node has the variables that are declared in it, sorted by
name, and setters for those that are writable. The store holds the variables of the tree under
their dotted names, each once and with the value that it begins with, and reading a variable at
its node gives what the store reads back of that value: in memory the value itself, in a database
what its text is read as. -/
theorem a_linked_namespace_mirrors_its_declaration {bindings : Bindings} (package : Option String)
    {decl : Source.Namespace} {w : World} {number : Nat} {empty : Store}
    (hchecked : Members.checkSpace decl = .ok ())
    (hdots : ∀ name ∈ (Source.Declaration.space decl).names, Undotted name)
    (hfree : w.spaces.lookup decl.name = none) (hstore : w.stores[number]? = some empty)
    (hempty : empty.names = [])
    (hbound : ∀ path inner v, Leads decl.body path inner → .variable v ∈ inner →
      ¬ v.initializer.IsLiteral → ∃ value,
        bindings.value (Text.join "." (decl.name :: (path ++ [v.name]))) = some (.ok value)) :
    ∃ root w' s, linkSpace bindings number (Blueprint.ofSpace package decl) w = (.ok root, w') ∧
      w'.stores[number]? = some s ∧
      (∀ path, (root.descend? path).isSome ↔ ∃ inner, Leads decl.body path inner) ∧
      (∀ path inner node, Leads decl.body path inner → root.descend? path = some node →
        (node.proxy.vars.map (·.1)).Pairwise (· < ·) ∧
        (node.proxy.vars.map (·.1)).Perm ((SpaceItem.vars inner).map (·.name)) ∧
        (∀ x, node.proxy.hasSetter x = true ↔
          ∃ v, .variable v ∈ inner ∧ v.name = x ∧ v.writable = true) ∧
        ∀ v, .variable v ∈ inner → ∃ value,
          bindings.initial (Text.join "." (decl.name :: (path ++ [v.name]))) v.initializer =
            .ok value ∧
          s.Holds (Text.join "." (decl.name :: (path ++ [v.name]))) value false ∧
          w'.get node v.name = empty.readBack value) ∧
      s.names.Pairwise (· < ·) ∧
      ∀ name, name ∈ s.names ↔ ∃ path x, Source.Declares decl.body path x ∧
        name = Text.join "." (decl.name :: (path ++ [x])) := by
  have htidy := isTidyTree_of_checkSpace hchecked hdots
  obtain ⟨entries, hentries, hlink⟩ := linkSpace_registers package hfree hstore
    fun path inner v hleads hv => initial_succeeds (hbound path inner v hleads hv)
  obtain ⟨hsorted, hnames, hholds, hback⟩ := Store.registerAll_of_isEmpty hempty
    fun e he e' he' => isInitial_unique htidy hdots ((hentries e).mp he) ((hentries e').mp he')
  have hregistered : (w.stores.set number (empty.registerAll entries))[number]? =
      some (empty.registerAll entries) :=
    List.getElem?_set_self (List.getElem?_eq_some_iff.mp hstore).1
  refine ⟨_, _, empty.registerAll entries, hlink, hregistered,
    descend_rootHandle_isSome package htidy _, ?_, hsorted, ?_⟩
  · intro path inner node hleads hnode
    obtain ⟨hproxy, -⟩ := descend_rootHandle htidy hleads hnode
    obtain ⟨hascend, hperm, hlookup⟩ := vars_of_build (htidy.node hleads) hproxy
    refine ⟨hascend, hperm, ?_, ?_⟩
    · intro x
      rw [Proxy.hasSetter, decide_eq_true_iff, hlookup]
    · intro v hv
      obtain ⟨value, hvalue⟩ := initial_succeeds (hbound path inner v hleads hv)
      have hheld := hholds _ value false
        ((hentries _).mpr ⟨path, inner, v, value, hleads, hv, hvalue, rfl⟩)
      refine ⟨value, hvalue, hheld, ?_⟩
      rw [get_of_declared htidy (by simp) hregistered hleads hnode hv, Store.get_of_holds hheld,
        hback]
  · intro name
    rw [hnames, List.mem_map]
    constructor
    · rintro ⟨e, he, rfl⟩
      obtain ⟨path, inner, v, value, hleads, hv, -, rfl⟩ := (hentries e).mp he
      exact ⟨path, v.name, Source.declares_iff_leads.mpr ⟨inner, v, hleads, hv, rfl⟩, rfl⟩
    · rintro ⟨path, x, hdeclares, rfl⟩
      obtain ⟨inner, v, hleads, hv, rfl⟩ := Source.declares_iff_leads.mp hdeclares
      obtain ⟨value, hvalue⟩ := initial_succeeds (hbound path inner v hleads hv)
      exact ⟨_, (hentries _).mpr ⟨path, inner, v, value, hleads, hv, hvalue, rfl⟩, rfl⟩

/-- A namespace of two levels, with an initializer that is no literal. -/
def gaugeSpace : Source.Namespace :=
  ⟨"cpu", [
    .variable ⟨"load", none, .literal (.number "10"), false⟩,
    .space "limits" [.variable ⟨"max", none, .source "detect()", true⟩] none], none⟩

def gaugeBindings : Bindings where
  value name := if name = "cpu.limits.max" then some (.ok (.ofInt 100)) else none

theorem a_linked_gauge_mirrors_its_declaration :
    Members.checkSpace gaugeSpace = .ok () ∧ ∃ root node w' s,
      linkSpace gaugeBindings 0 (Blueprint.ofSpace (some "demo") gaugeSpace)
        { stores := [.memory []] } = (.ok root, w') ∧
      w'.stores[0]? = some s ∧ root.descend? ["limits"] = some node ∧
      root.descend? ["load"] = none ∧ node.proxy.hasSetter "max" = true ∧
      w'.get node "max" = .ok (.ofInt 100) ∧ "cpu.limits.max" ∈ s.names ∧ "max" ∉ s.names := by
  have hchecked : Members.checkSpace gaugeSpace = .ok () := by rfl
  have hdots : ∀ name ∈ (Source.Declaration.space gaugeSpace).names, Undotted name := by
    decide
  have hlimits : Leads gaugeSpace.body ["limits"]
      [.variable ⟨"max", none, .source "detect()", true⟩] :=
    ⟨_, none, List.mem_cons_of_mem _ List.mem_cons_self, rfl⟩
  have hbound : ∀ path inner v, Leads gaugeSpace.body path inner → .variable v ∈ inner →
      ¬ v.initializer.IsLiteral → ∃ value,
        gaugeBindings.value (Text.join "." (gaugeSpace.name :: (path ++ [v.name]))) =
          some (.ok value) := by
    intro path inner v hleads hv hliteral
    rcases path with _ | ⟨child, _ | ⟨next, path⟩⟩
    · cases hleads
      simp [gaugeSpace] at hv
      exact absurd ⟨_, by rw [hv]⟩ hliteral
    · obtain ⟨between, span, hmem, rfl⟩ := hleads
      simp [gaugeSpace] at hmem
      obtain ⟨rfl, rfl, -⟩ := hmem
      simp at hv
      subst hv
      exact ⟨_, rfl⟩
    · obtain ⟨between, span, hmem, between', span', hmem', -⟩ := hleads
      simp [gaugeSpace] at hmem
      obtain ⟨-, rfl, -⟩ := hmem
      simp at hmem'
  obtain ⟨root, w', s, hlink, hstore, hpaths, hnodes, -, hnames⟩ :=
    a_linked_namespace_mirrors_its_declaration (w := { stores := [.memory []] }) (some "demo")
      hchecked hdots rfl (show [Store.memory []][0]? = some (.memory []) from rfl) rfl hbound
  obtain ⟨node, hnode⟩ := Option.isSome_iff_exists.mp ((hpaths ["limits"]).mpr ⟨_, hlimits⟩)
  obtain ⟨-, -, hsetter, hvalues⟩ := hnodes ["limits"] _ node hlimits hnode
  obtain ⟨value, hvalue, -, hget⟩ := hvalues _ List.mem_cons_self
  refine ⟨hchecked, root, node, w', s, hlink, hstore, hnode, ?_, ?_, ?_, ?_, ?_⟩
  · rw [← Option.not_isSome_iff_eq_none, hpaths]
    rintro ⟨inner, between, span, hmem, -⟩
    simp [gaugeSpace] at hmem
  · exact (hsetter "max").mpr ⟨_, List.mem_cons_self, rfl, rfl⟩
  · cases hvalue
    exact hget
  · exact (hnames _).mpr ⟨["limits"], "max", Source.declares_iff_leads.mpr
      ⟨_, _, hlimits, List.mem_cons_self, rfl⟩, rfl⟩
  · rw [hnames]
    rintro ⟨path, x, -, heq⟩
    rw [Text.join_cons (by simp)] at heq
    simpa [gaugeSpace] using congrArg String.toList heq

/-- A namespace with a number whose text is read as another one. -/
def drainSpace : Source.Namespace :=
  ⟨"cpu", [.variable ⟨"load", none, .literal (.number "12e30"), false⟩], none⟩

/-- The number of a value. -/
def number? : Json → Option Number
  | .num n => some n
  | _ => none

theorem a_database_reads_another_number_than_it_was_given :
    Members.checkSpace drainSpace = .ok () ∧
      (∀ name ∈ (Source.Declaration.space drainSpace).names, Undotted name) ∧
      ∃ root w' value other,
        linkSpace {} 0 (Blueprint.ofSpace (some "demo") drainSpace) { stores := [.database {}] } =
          (.ok root, w') ∧
        ({} : Bindings).initial "cpu.load" (.literal (.number "12e30")) = .ok value ∧
        w'.get root "load" = .ok other ∧ other ≠ value := by
  refine ⟨rfl, by decide, ?_⟩
  have hgiven : number? (Source.Literal.number "12e30").value =
      some (.float 5071878651310008752) := by
    decide +kernel
  have hread : (match linkSpace {} 0 (Blueprint.ofSpace (some "demo") drainSpace)
        { stores := [.database {}] } with
      | (.ok root, w') => (w'.get root "load").toOption.bind number?
      | _ => none) = some (.float 5071878651310008751) := by
    decide +kernel
  split at hread
  · rename_i root w' hlink
    obtain ⟨other, hother, hnumber⟩ := Option.bind_eq_some_iff.mp hread
    refine ⟨root, w', _, other, hlink, rfl, ?_, ?_⟩
    · generalize w'.get root "load" = outcome at hother
      cases outcome <;> cases hother
      rfl
    · intro heq
      have hsame := hnumber.symm.trans ((congrArg number? heq).trans hgiven)
      exact absurd hsame (by decide)
  · cases hread

end Linking

end Watchtower
