-- The proxies of a namespace. There is one for each node of the tree, and its type is named by the
-- words of the names that lead to the node, with nothing between them; so nodes share a type where
-- their paths run together.
import Mathlib.Data.List.Nodup
import Watchtower.Linking.System
import Watchtower.Proofs.Blueprint.Space

namespace Watchtower

open Linking (isProxy)
open Source (SpaceItem Leads)

/-! ## Paths -/

namespace Source

mutual

/-- The paths to the node of a statement and to those below it. -/
def SpaceItem.nodePaths : SpaceItem → List (List String)
  | .variable _ => []
  | .space name body _ => [name] :: (SpaceItem.innerPaths body).map (name :: ·)

/-- The paths to the nodes below a node. -/
def SpaceItem.innerPaths : List SpaceItem → List (List String)
  | [] => []
  | item :: rest => item.nodePaths ++ SpaceItem.innerPaths rest

end

/-- The paths to the nodes of a tree, in the order of a walk. -/
def nodePaths (body : List SpaceItem) : List (List String) :=
  [] :: SpaceItem.innerPaths body

theorem SpaceItem.mem_innerPaths {items : List SpaceItem} {path : List String} :
    path ∈ SpaceItem.innerPaths items ↔ ∃ item ∈ items, path ∈ item.nodePaths := by
  induction items with
  | nil => simp [SpaceItem.innerPaths]
  | cons item rest ih => simp [SpaceItem.innerPaths, ih]

/-- A path of a statement begins with its name. -/
theorem SpaceItem.mem_nodePaths {item : SpaceItem} {path : List String} :
    path ∈ item.nodePaths ↔ ∃ name body span rest, item = .space name body span ∧
      path = name :: rest ∧ rest ∈ Source.nodePaths body := by
  rcases item with decl | ⟨name, body, span⟩
  · simp [SpaceItem.nodePaths]
  · constructor
    · intro h
      rcases List.mem_cons.mp h with rfl | h
      · exact ⟨name, body, span, [], rfl, rfl, List.mem_cons_self⟩
      · obtain ⟨rest, hrest, rfl⟩ := List.mem_map.mp h
        exact ⟨name, body, span, rest, rfl, rfl, List.mem_cons_of_mem _ hrest⟩
    · rintro ⟨_, _, _, rest, ⟨⟩, rfl, hrest⟩
      rcases List.mem_cons.mp hrest with rfl | hrest
      · exact List.mem_cons_self
      · exact List.mem_cons_of_mem _ (List.mem_map_of_mem hrest)

theorem nil_not_mem_innerPaths (items : List SpaceItem) : [] ∉ SpaceItem.innerPaths items := by
  intro hmem
  obtain ⟨item, -, hitem⟩ := SpaceItem.mem_innerPaths.mp hmem
  obtain ⟨_, _, _, _, -, hcons, -⟩ := SpaceItem.mem_nodePaths.mp hitem
  cases hcons

/-- The paths are those that lead to nodes. -/
theorem mem_nodePaths_iff {body : List SpaceItem} {path : List String} :
    path ∈ nodePaths body ↔ ∃ inner, Leads body path inner := by
  induction path generalizing body with
  | nil => simp [nodePaths, Leads]
  | cons child path ih =>
    have hcons : child :: path ∈ nodePaths body ↔ child :: path ∈ SpaceItem.innerPaths body := by
      simp [nodePaths]
    rw [hcons, SpaceItem.mem_innerPaths]
    constructor
    · rintro ⟨item, hitem, hpath⟩
      obtain ⟨_, between, span, _, rfl, ⟨⟩, hrest⟩ := SpaceItem.mem_nodePaths.mp hpath
      obtain ⟨inner, hinner⟩ := ih.mp hrest
      exact ⟨inner, between, span, hitem, hinner⟩
    · rintro ⟨inner, between, span, hitem, hinner⟩
      exact ⟨_, hitem, SpaceItem.mem_nodePaths.mpr
        ⟨child, between, span, path, rfl, rfl, ih.mpr ⟨inner, hinner⟩⟩⟩

/-- At every node the statements have names of their own. -/
def HasDistinctNames (body : List SpaceItem) : Prop :=
  ∀ path inner, Leads body path inner → (inner.map SpaceItem.name).Nodup

theorem HasDistinctNames.child {body inner : List SpaceItem} {name : String} {span : Option Span}
    (h : HasDistinctNames body) (hchild : .space name inner span ∈ body) :
    HasDistinctNames inner :=
  fun path last hleads => h (name :: path) last ⟨inner, span, hchild, hleads⟩

theorem HasDistinctNames.tail {item : SpaceItem} {rest : List SpaceItem}
    (h : HasDistinctNames (item :: rest)) : HasDistinctNames rest := by
  intro path inner hleads
  cases path with
  | nil =>
    cases hleads
    exact (List.nodup_cons.mp (h [] _ rfl)).2
  | cons child path =>
    obtain ⟨between, span, hmem, hrest⟩ := hleads
    exact h (child :: path) inner ⟨between, span, List.mem_cons_of_mem _ hmem, hrest⟩

mutual

/-- No path to a node of a statement stands twice. -/
theorem SpaceItem.nodePaths_nodup : ∀ item : SpaceItem, HasDistinctNames [item] →
    item.nodePaths.Nodup
  | .variable _, _ => List.nodup_nil
  | .space name body span, h => by
    have hbody := SpaceItem.innerPaths_nodup body (h.child (List.mem_singleton_self _))
    rw [SpaceItem.nodePaths, List.nodup_cons]
    refine ⟨?_, hbody.map List.cons_injective⟩
    intro hmem
    obtain ⟨path, hpath, ⟨⟩⟩ := List.mem_map.mp hmem
    exact nil_not_mem_innerPaths body hpath

/-- Where siblings have names of their own at every node, no path stands twice. -/
theorem SpaceItem.innerPaths_nodup : ∀ items : List SpaceItem, HasDistinctNames items →
    (SpaceItem.innerPaths items).Nodup
  | [], _ => List.nodup_nil
  | item :: rest, h => by
    have hitem : HasDistinctNames [item] := by
      intro path inner hleads
      cases path with
      | nil =>
        cases hleads
        exact List.nodup_singleton _
      | cons child path =>
        obtain ⟨between, span, hmem, hrest⟩ := hleads
        exact h (child :: path) inner
          ⟨between, span, List.mem_cons.mpr (.inl (List.mem_singleton.mp hmem)), hrest⟩
    rw [SpaceItem.innerPaths, List.nodup_append]
    refine ⟨SpaceItem.nodePaths_nodup item hitem, SpaceItem.innerPaths_nodup rest h.tail, ?_⟩
    -- Paths to nodes of two statements begin with different names.
    rintro path hfirst _ hlater rfl
    obtain ⟨other, hother, hpath⟩ := SpaceItem.mem_innerPaths.mp hlater
    obtain ⟨name, _, _, _, rfl, rfl, -⟩ := SpaceItem.mem_nodePaths.mp hfirst
    obtain ⟨_, _, _, _, rfl, ⟨⟩, -⟩ := SpaceItem.mem_nodePaths.mp hpath
    exact (List.nodup_cons.mp (h [] _ rfl)).1 (List.mem_map.mpr ⟨_, hother, rfl⟩)

end

theorem nodePaths_nodup {body : List SpaceItem} (h : HasDistinctNames body) :
    (nodePaths body).Nodup :=
  List.nodup_cons.mpr ⟨nil_not_mem_innerPaths body, SpaceItem.innerPaths_nodup body h⟩

end Source

/-! ## Types -/

/-- The type name of the node to which a path leads from a node with a type name. -/
def typeAt (type : String) (path : List String) : String :=
  path.foldl (fun type name => type ++ Naming.pascal name) type

/-- The proxies of a tree, in the order of a walk. -/
def Blueprint.proxies (b : Blueprint) : List Blueprint :=
  b.walk.filter isProxy

theorem Blueprint.walkAll_append (first rest : List Blueprint) :
    Blueprint.walkAll (first ++ rest) = Blueprint.walkAll first ++ Blueprint.walkAll rest := by
  induction first with
  | nil => rfl
  | cons b first ih => simp [Blueprint.walkAll, ih]

theorem Blueprint.walk_eq (b : Blueprint) : b.walk = b :: Blueprint.walkAll b.nested := by
  cases b
  rfl

/-- What a blueprint says of its type: whether it is the proxy of a node, and its name. -/
def Blueprint.proxyType (b : Blueprint) : Bool × String := (isProxy b, b.name)

mutual

theorem types_childProxies (root path type qualifiedName : String) : ∀ item : SpaceItem,
    (Blueprint.walkAll ((childProxies root path type qualifiedName item).map (·.2))).map
        Blueprint.proxyType = item.nodePaths.map fun path => (true, typeAt type path)
  | .variable _ => rfl
  | .space name body _ => by
    have hbelow := types_allProxies root (path ++ "." ++ name) (type ++ Naming.pascal name)
      (qualifiedName ++ "." ++ name) body
    rw [childProxies, List.map_singleton, Blueprint.walkAll, Blueprint.walkAll, List.append_nil,
      Blueprint.walk_eq, List.map_cons, SpaceItem.nodePaths, List.map_cons, List.map_map]
    exact congrArg _ hbelow

/-- Below a node there are proxies only, one for each path. -/
theorem types_allProxies (root path type qualifiedName : String) : ∀ items : List SpaceItem,
    (Blueprint.walkAll ((allProxies root path type qualifiedName items).map (·.2))).map
        Blueprint.proxyType =
      (SpaceItem.innerPaths items).map fun path => (true, typeAt type path)
  | [] => rfl
  | item :: rest => by
    rw [allProxies, List.map_append, Blueprint.walkAll_append, List.map_append,
      types_childProxies root path type qualifiedName item,
      types_allProxies root path type qualifiedName rest, SpaceItem.innerPaths, List.map_append]

end

section Roots

variable (package : Option String) (decl : Source.Namespace)

/-- The proxies below the root of a namespace. -/
def childTree : List Blueprint :=
  Blueprint.walkAll ((allProxies decl.name decl.name (Naming.pascal decl.name)
    (Source.qualify package (Naming.pascal decl.name)) decl.body).map (·.2))

theorem types_childTree : (childTree package decl).map Blueprint.proxyType =
    (SpaceItem.innerPaths decl.body).map fun path => (true, typeAt (Naming.pascal decl.name) path) :=
  types_allProxies ..

theorem isProxy_of_mem_childTree : ∀ node ∈ childTree package decl, isProxy node := by
  intro node hnode
  have hmem := List.mem_map_of_mem (f := Blueprint.proxyType) hnode
  rw [types_childTree] at hmem
  obtain ⟨path, -, heq⟩ := List.mem_map.mp hmem
  exact (congrArg Prod.fst heq).symm

/-- The tree of a namespace has its root, its storage, and the proxies below the root. -/
theorem walk_ofSpace_eq : ∃ storage : Blueprint,
    storage.kind = .namespaceStorage ∧ storage.nested = [] ∧
      storage.name = Naming.pascal decl.name ++ "Storage" ∧
      (Blueprint.ofSpace package decl).nested.find? (·.kind == .namespaceStorage) = some storage ∧
      (Blueprint.ofSpace package decl).walk =
        Blueprint.ofSpace package decl :: storage :: childTree package decl :=
  ⟨_, rfl, rfl, rfl, rfl, by rw [Blueprint.walk_eq]; rfl⟩

/-- What is no proxy has nothing nested in it. -/
theorem isProxy_or_leaf {node : Blueprint} (h : node ∈ (Blueprint.ofSpace package decl).walk) :
    isProxy node ∨ node.nested = [] := by
  obtain ⟨storage, -, hleaf, -, -, hwalk⟩ := walk_ofSpace_eq package decl
  rw [hwalk] at h
  rcases List.mem_cons.mp h with rfl | h
  · exact .inl rfl
  · rcases List.mem_cons.mp h with rfl | h
    · exact .inr hleaf
    · exact .inl (isProxy_of_mem_childTree package decl node h)

/-- The proxies of a namespace are named by the paths to its nodes. -/
theorem names_proxies_ofSpace : (Blueprint.ofSpace package decl).proxies.map (·.name) =
    (Source.nodePaths decl.body).map (typeAt (Naming.pascal decl.name)) := by
  obtain ⟨storage, hkind, -, -, -, hwalk⟩ := walk_ofSpace_eq package decl
  have hstorage : isProxy storage = false := by simp [isProxy, hkind]
  have hroot : isProxy (Blueprint.ofSpace package decl) = true := rfl
  have hnames := congrArg (List.map Prod.snd) (types_childTree package decl)
  rw [List.map_map, List.map_map] at hnames
  rw [Blueprint.proxies, hwalk, List.filter_cons_of_pos hroot,
    List.filter_cons_of_neg (by simp [hstorage]),
    List.filter_eq_self.mpr (isProxy_of_mem_childTree package decl), List.map_cons,
    Source.nodePaths, List.map_cons]
  exact congrArg _ hnames

end Roots

/-! ## Paths told apart -/

/-- The characters that a path adds to the name of a type. -/
def pathChars (path : List String) : List Char :=
  path.flatMap fun name => (Naming.pascal name).toList

theorem pathChars_cons (name : String) (path : List String) :
    pathChars (name :: path) = (Naming.pascal name).toList ++ pathChars path :=
  List.flatMap_cons

theorem typeAt_inj {type : String} {first second : List String} :
    typeAt type first = typeAt type second ↔ pathChars first = pathChars second := by
  have htext : ∀ (path : List String) (type : String),
      (typeAt type path).toList = type.toList ++ pathChars path := by
    intro path
    induction path with
    | nil => exact fun type => (List.append_nil _).symm
    | cons name path ih =>
      intro type
      show (typeAt (type ++ Naming.pascal name) path).toList = _
      rw [ih, String.toList_append, List.append_assoc, pathChars_cons]
  rw [← String.toList_inj, htext, htext, List.append_right_inj]

/-- The text begins with a capital, or is empty. -/
def BeginsAnew (cs : List Char) : Prop :=
  ∀ c ∈ cs.head?, Text.isUpper c

/-- The type names of the children of a node tell where they end: each begins with a capital, and
none is what another one begins with, up to a capital or the end. -/
structure AreTold (body : List SpaceItem) : Prop where
  filled : ∀ name inner span, .space name inner span ∈ body → Naming.pascal name ≠ ""
  capital : ∀ name inner span, .space name inner span ∈ body →
    BeginsAnew (Naming.pascal name).toList
  apart : ∀ name inner span, .space name inner span ∈ body →
    ∀ other inner' span', .space other inner' span' ∈ body → ∀ rest, BeginsAnew rest →
      (Naming.pascal other).toList = (Naming.pascal name).toList ++ rest → name = other

theorem areTold_nil : AreTold [] :=
  ⟨fun _ _ _ h => absurd h List.not_mem_nil, fun _ _ _ h => absurd h List.not_mem_nil,
    fun _ _ _ h => absurd h List.not_mem_nil⟩

theorem beginsAnew_pathChars {body inner : List SpaceItem} {path : List String}
    (h : ∀ path inner, Leads body path inner → AreTold inner) (hleads : Leads body path inner) :
    BeginsAnew (pathChars path) := by
  cases path with
  | nil => simp [BeginsAnew, pathChars]
  | cons name path =>
    obtain ⟨between, span, hchild, -⟩ := hleads
    have hnode := h [] body rfl
    have hfilled : (Naming.pascal name).toList ≠ [] := by
      simpa using hnode.filled name between span hchild
    intro c hc
    rw [pathChars_cons, List.head?_append_of_ne_nil _ hfilled] at hc
    exact hnode.capital name between span hchild c hc

theorem BeginsAnew.of_append {first rest : List Char} (h : BeginsAnew (first ++ rest)) :
    BeginsAnew first := by
  intro c hc
  exact h c (by simp [List.head?_append, Option.mem_def.mp hc])

theorem AreTold.pathChars_ne_nil {body inner : List SpaceItem} {name : String}
    {span : Option Source.Span} (h : AreTold body) (hchild : .space name inner span ∈ body)
    (path : List String) : pathChars (name :: path) ≠ [] := by
  have hfilled := h.filled name inner span hchild
  simp [pathChars_cons, hfilled]

/-- Where the children are told apart at every node, paths are told by the names of types. -/
theorem eq_of_pathChars {body inner inner' : List SpaceItem} {first second : List String}
    (hnames : Source.HasDistinctNames body) (h : ∀ path inner, Leads body path inner → AreTold inner)
    (hfirst : Leads body first inner) (hsecond : Leads body second inner')
    (heq : pathChars first = pathChars second) : first = second := by
  have hnode := h [] body rfl
  induction first generalizing body second with
  | nil =>
    cases second with
    | nil => rfl
    | cons other second =>
      obtain ⟨_, _, hother, -⟩ := hsecond
      exact absurd heq.symm (hnode.pathChars_ne_nil hother second)
  | cons name first ih =>
    obtain ⟨between, span, hname, hinner⟩ := hfirst
    cases second with
    | nil => exact absurd heq (hnode.pathChars_ne_nil hname first)
    | cons other second =>
      obtain ⟨between', span', hother, hinner'⟩ := hsecond
      have hbelow : ∀ path inner, Leads between path inner → AreTold inner :=
        fun path last hleads => h (name :: path) last ⟨between, span, hname, hleads⟩
      have hbelow' : ∀ path inner, Leads between' path inner → AreTold inner :=
        fun path last hleads => h (other :: path) last ⟨between', span', hother, hleads⟩
      rw [pathChars_cons, pathChars_cons] at heq
      -- The longer of the two type names would go on with a capital.
      have hsame : name = other := by
        rcases List.append_eq_append_iff.mp heq with ⟨rest, hlonger, hrest⟩ | ⟨rest, hlonger, hrest⟩
        · refine hnode.apart name between span hname other between' span' hother rest ?_ hlonger
          exact BeginsAnew.of_append (hrest ▸ beginsAnew_pathChars hbelow hinner)
        · refine (hnode.apart other between' span' hother name between span hname rest ?_
            hlonger).symm
          exact BeginsAnew.of_append (hrest ▸ beginsAnew_pathChars hbelow' hinner')
      subst hsame
      cases List.inj_on_of_nodup_map (hnames [] body rfl) hname hother rfl
      rw [ih (hnames.child hname) hbelow hinner hinner' (List.append_cancel_left heq)
        (hbelow [] between rfl)]

end Watchtower
