-- Roots in any order. Linking a root adds its variables to the store and its tree to the
-- namespaces. Roots with other names add other variables, and both tables are sorted, so what
-- comes of some roots depends only on which they are.
import Mathlib.Data.List.Perm.Basic
import Watchtower.Proofs.Linking.Access
import Watchtower.Proofs.Order.Views

namespace Watchtower

/-- Sorted tables with the same entries are the same. -/
theorem Sorted.Ascends.eq_of_mem_iff {α : Type} {table table' : List (String × α)}
    (h : Ascends table) (h' : Ascends table') (hmem : ∀ entry, entry ∈ table ↔ entry ∈ table') :
    table = table' := by
  have hpairwise := List.pairwise_map.mp h
  have hpairwise' := List.pairwise_map.mp h'
  have hperm : table.Perm table' :=
    (List.perm_ext_iff_of_nodup (List.Nodup.of_map _ h.nodup) (List.Nodup.of_map _ h'.nodup)).mpr
      hmem
  exact hperm.eq_of_pairwise
    (fun _ _ _ _ hlt hgt => absurd hlt (String.lt_asymm hgt)) hpairwise hpairwise'

theorem Sorted.Ascends.mem_iff {α : Type} {table : List (String × α)} (h : Ascends table)
    {name : String} {value : α} : (name, value) ∈ table ↔ table.lookup name = some value :=
  ⟨lookup_of_mem h.nodup, mem_of_lookup⟩

namespace Linking

open Live
open Source (Leads)

/-! ## Linked roots -/

/-- What is seen of a linked root. -/
def rootView (package : Option String) (decl : Source.Namespace) : HandleView :=
  ⟨Proxy.ofShape (shapeOf decl.name (Blueprint.ofSpace package decl)),
    some (rootConnection package decl.name 0), true⟩

/-- The variables are those of the trees of these roots, with the values with which they begin. -/
def AreInitial (bindings : Bindings) (decls : List Source.Namespace)
    (vars : List (String × Json × Bool)) : Prop :=
  ∀ name entry, vars.lookup name = some entry ↔
    ∃ d ∈ decls, IsInitial bindings d.name d.body (name, entry)

/-- Just these roots were linked over an empty store. The variables of their trees are in it, and
nothing else is. -/
structure HasRoots (bindings : Bindings) (package : Option String) (decls : List Source.Namespace)
    (w : World) : Prop where
  stored : ∃ vars, w.stores = [.memory vars] ∧ Sorted.Ascends vars ∧ AreInitial bindings decls vars
  ascends : Sorted.Ascends w.spaces
  spaces : ∀ name v, (w.spaces.lookup name).map w.viewHandle = some v ↔
    ∃ d ∈ decls, d.name = name ∧ v = rootView package d

theorem hasRoots_of_empty (bindings : Bindings) (package : Option String) :
    HasRoots bindings package [] { stores := [.memory []] } :=
  ⟨⟨[], rfl, List.Pairwise.nil, fun _ _ => by simp⟩, List.Pairwise.nil, by simp⟩

section Roots

variable {bindings : Bindings} {package : Option String} {decls decls' : List Source.Namespace}
  {decl : Source.Namespace} {w w' : World}

theorem HasRoots.lookup_eq_none (h : HasRoots bindings package decls w) {name : String}
    (hnew : name ∉ decls.map (·.name)) : w.spaces.lookup name = none := by
  cases hlookup : w.spaces.lookup name with
  | none => rfl
  | some handle =>
    obtain ⟨d, hd, rfl, -⟩ := (h.spaces name (w.viewHandle handle)).mp (by rw [hlookup]; rfl)
    exact absurd (List.mem_map_of_mem hd) hnew

/-- Another connection is not seen of the roots that were there. -/
theorem HasRoots.viewHandle_connected (h : HasRoots bindings package decls w) {name : String}
    {handle : Handle} (hlookup : w.spaces.lookup name = some handle)
    (hconnections : w.connections <+: w'.connections) :
    w'.viewHandle handle = w.viewHandle handle := by
  obtain ⟨d, -, -, hview⟩ := (h.spaces name (w.viewHandle handle)).mp (by rw [hlookup]; rfl)
  have hconnected : handle.connection.bind (w.connections[·]?) =
      some (rootConnection package d.name 0) := congrArg HandleView.connection hview
  obtain ⟨number, hnumber, hfound⟩ := Option.bind_eq_some_iff.mp hconnected
  obtain ⟨hlt, -⟩ := List.getElem?_eq_some_iff.mp hfound
  have hkept : w'.connections[number]? = w.connections[number]? := by
    rw [List.prefix_iff_getElem?.mp hconnections number hlt, List.getElem?_eq_getElem hlt]
  unfold World.viewHandle
  rw [hnumber, Option.bind_some, Option.bind_some, hkept]

/-- The variables of literals have values to begin with. -/
theorem succeeds_initial_of_isLiteral
    (hliteral : ∀ v, .variable v ∈ Source.SpaceItem.allWithin decl.body →
      v.initializer.IsLiteral) {names : List String} {inner : List Source.SpaceItem}
    {v : Source.Variable} (hleads : Leads decl.body names inner) (hv : .variable v ∈ inner) :
    Succeeds (bindings.initial (Text.join "." (decl.name :: (names ++ [v.name])))
      v.initializer) := by
  obtain ⟨literal, hl⟩ := hliteral v (hleads.mem_allWithin hv)
  rw [hl]
  exact ⟨_, rfl⟩

/-- The variables of a root with a name of its own come to those that are there. -/
theorem AreInitial.enter {vars entries : List (String × Json × Bool)}
    (h : AreInitial bindings decls vars) (hplain : ∀ d ∈ decl :: decls, IsPlain (package, d))
    (hnew : decl.name ∉ decls.map (·.name))
    (hentries : ∀ entry, entry ∈ entries ↔ IsInitial bindings decl.name decl.body entry) :
    AreInitial bindings (decl :: decls) (entries.foldl Sorted.enter vars) := by
  intro name entry
  have hdecl := hplain decl List.mem_cons_self
  have hone : ∀ e ∈ entries, ∀ e' ∈ entries, e.1 = e'.1 → e = e' := fun e he e' he' =>
    isInitial_unique hdecl.isTidyTree hdecl.undotted ((hentries e).mp he) ((hentries e').mp he')
  rw [Sorted.lookup_foldl_enter]
  constructor
  · intro hlookup
    cases hold : vars.lookup name with
    | some old =>
      rw [hold, Option.some_or] at hlookup
      obtain ⟨d, hd, hinitial⟩ := (h name entry).mp (hold.trans hlookup)
      exact ⟨d, List.mem_cons_of_mem _ hd, hinitial⟩
    | none =>
      rw [hold, Option.none_or] at hlookup
      exact ⟨decl, List.mem_cons_self, (hentries _).mp (mem_of_lookup hlookup)⟩
  · rintro ⟨d, hd, hinitial⟩
    rcases List.mem_cons.mp hd with rfl | hd
    · -- The root has no variable under a name that is there: this would tell its own name.
      cases hold : vars.lookup name with
      | some old =>
        obtain ⟨d', hd', hinitial'⟩ := (h name old).mp hold
        have hsame := root_of_isInitial (hplain d' (List.mem_cons_of_mem _ hd')) hdecl hinitial'
          hinitial rfl
        have hmem : d'.name ∈ decls.map (·.name) := List.mem_map_of_mem hd'
        exact absurd (hsame ▸ hmem) hnew
      | none => exact lookup_of_unique hone ((hentries _).mpr hinitial)
    · rw [(h name entry).mpr ⟨d, hd, hinitial⟩, Option.some_or]

/-- The handle of a root is seen over its connection, which is the newest. -/
theorem viewHandle_rootHandle (package : Option String) (decl : Source.Namespace)
    (hconnections : w'.connections = w.connections ++ [rootConnection package decl.name 0]) :
    w'.viewHandle (rootHandle package decl w.connections.length) = rootView package decl := by
  unfold World.viewHandle rootHandle Handle.ofShape rootView
  simp [hconnections]

/-- A root with a name of its own is seen beside those that were linked. -/
theorem HasRoots.viewHandle_cons (h : HasRoots bindings package decls w)
    (hnew : decl.name ∉ decls.map (·.name))
    (hconnections : w'.connections = w.connections ++ [rootConnection package decl.name 0])
    (name : String) (v : HandleView) :
    ((Sorted.insert decl.name (rootHandle package decl w.connections.length) w.spaces).lookup
        name).map w'.viewHandle = some v ↔
      ∃ d ∈ decl :: decls, d.name = name ∧ v = rootView package d := by
  by_cases hname : name = decl.name
  · subst hname
    rw [Sorted.lookup_insert_self, Option.map_some, viewHandle_rootHandle package decl hconnections]
    constructor
    · intro hv
      exact ⟨decl, List.mem_cons_self, rfl, (Option.some.inj hv).symm⟩
    · rintro ⟨d, hd, hsame, rfl⟩
      rcases List.mem_cons.mp hd with rfl | hd
      · rfl
      · exact absurd (hsame ▸ List.mem_map_of_mem hd) hnew
  · rw [Sorted.lookup_insert_of_ne _ _ hname]
    have hkept : (w.spaces.lookup name).map w'.viewHandle =
        (w.spaces.lookup name).map w.viewHandle := by
      cases hlookup : w.spaces.lookup name with
      | none => rfl
      | some handle =>
        have hgrown : w.connections <+: w'.connections := ⟨_, hconnections.symm⟩
        exact congrArg some (h.viewHandle_connected hlookup hgrown)
    rw [hkept, h.spaces]
    simp [Ne.symm hname]

/-- A root with a name of its own is added to those that were linked. -/
theorem HasRoots.link (h : HasRoots bindings package decls w)
    (hplain : ∀ d ∈ decl :: decls, IsPlain (package, d))
    (hnew : decl.name ∉ decls.map (·.name))
    (hliteral : ∀ v, .variable v ∈ Source.SpaceItem.allWithin decl.body →
      v.initializer.IsLiteral) :
    ∃ handle connections stores spaces,
      linkSpace bindings 0 (Blueprint.ofSpace package decl) w =
        (.ok handle, { w with connections, stores, spaces }) ∧
      HasRoots bindings package (decl :: decls) { w with connections, stores, spaces } := by
  obtain ⟨vars, hstores, hvars, hinitial⟩ := h.stored
  have hstore : w.stores[0]? = some (.memory vars) := by
    rw [hstores]
    rfl
  have hvalues : ∀ names inner v, Leads decl.body names inner → .variable v ∈ inner →
      Succeeds (bindings.initial (Text.join "." (decl.name :: (names ++ [v.name])))
        v.initializer) :=
    fun _ _ _ hleads hv => succeeds_initial_of_isLiteral hliteral hleads hv
  obtain ⟨entries, hentries, hlink⟩ :=
    linkSpace_registers package (h.lookup_eq_none hnew) hstore hvalues
  refine ⟨_, _, _, _, hlink, ⟨_, ?_, hvars.foldl_enter entries,
    hinitial.enter hplain hnew hentries⟩, h.ascends.insert _ _, h.viewHandle_cons hnew rfl⟩
  show w.stores.set 0 _ = _
  rw [hstores, Store.registerAll_memory]
  rfl

/-- Roots with names of their own are linked, one after the other. -/
theorem HasRoots.linkAll (h : HasRoots bindings package decls w)
    (hplain : ∀ d ∈ decls' ++ decls, IsPlain (package, d))
    (hnames : ((decls' ++ decls).map (·.name)).Nodup)
    (hliteral : ∀ d ∈ decls', ∀ v, .variable v ∈ Source.SpaceItem.allWithin d.body →
      v.initializer.IsLiteral) :
    ∃ connections stores spaces,
      ((decls'.map (Blueprint.ofSpace package)).forM fun b => do
          let _ ← linkSpace bindings 0 b : Link Unit) w =
        (.ok (), { w with connections, stores, spaces }) ∧
      HasRoots bindings package (decls'.reverse ++ decls)
        { w with connections, stores, spaces } := by
  induction decls' generalizing decls w with
  | nil => exact ⟨w.connections, w.stores, w.spaces, rfl, h⟩
  | cons decl rest ih =>
    rw [List.cons_append] at hplain hnames
    rw [List.map_cons, List.nodup_cons] at hnames
    have hmem : ∀ {d}, d ∈ decl :: decls → d ∈ decl :: (rest ++ decls) := by
      intro d hd
      rcases List.mem_cons.mp hd with rfl | hd
      · exact List.mem_cons_self
      · exact List.mem_cons_of_mem _ (List.mem_append_right _ hd)
    have hnew : decl.name ∉ decls.map (·.name) := fun hin => hnames.1 (by simp at hin ⊢; tauto)
    obtain ⟨handle, connections, stores, spaces, hlink, hfirst⟩ :=
      h.link (fun d hd => hplain d (hmem hd)) hnew (hliteral decl List.mem_cons_self)
    have hmiddle : (rest ++ decl :: decls).Perm (decl :: (rest ++ decls)) := List.perm_middle
    obtain ⟨connections', stores', spaces', hrest, hall⟩ := ih hfirst
      (fun d hd => hplain d (hmiddle.mem_iff.mp hd))
      ((hmiddle.map _).nodup_iff.mpr (List.nodup_cons.mpr hnames))
      (fun d hd => hliteral d (List.mem_cons_of_mem _ hd))
    refine ⟨connections', stores', spaces', ?_, ?_⟩
    · refine Eq.trans ?_ hrest
      apply forM_cons_of_ok
      rw [bind_of_ok hlink]
      rfl
    · rw [List.reverse_cons, List.append_assoc]
      exact hall

/-! ## Two orders -/

/-- The same roots come to the same store and the same namespaces. -/
theorem HasRoots.alike (h : HasRoots bindings package decls w)
    (h' : HasRoots bindings package decls' w') (hmem : ∀ d, d ∈ decls' ↔ d ∈ decls) :
    w'.stores = w.stores ∧ w'.viewSpaces = w.viewSpaces := by
  obtain ⟨vars, hstores, hvars, hstored⟩ := h.stored
  obtain ⟨vars', hstores', hvars', hstored'⟩ := h'.stored
  have hascends : ∀ {w : World}, Sorted.Ascends w.spaces → Sorted.Ascends w.viewSpaces := by
    intro w hw
    unfold Sorted.Ascends World.viewSpaces
    rw [List.map_map]
    exact hw
  constructor
  · rw [hstores, hstores']
    refine congrArg (fun vars => [Store.memory vars]) (hvars'.eq_of_mem_iff hvars fun e => ?_)
    rw [hvars'.mem_iff, hvars.mem_iff, hstored', hstored]
    simp only [hmem]
  · refine (hascends h'.ascends).eq_of_mem_iff (hascends h.ascends) fun e => ?_
    rw [(hascends h'.ascends).mem_iff, (hascends h.ascends).mem_iff]
    unfold World.viewSpaces
    rw [lookup_map_snd, lookup_map_snd, h'.spaces, h.spaces]
    simp only [hmem]

end Roots

end Linking

end Watchtower
