-- Linked namespaces. Linking a root connects it to its store under its canonical name, and a
-- write that succeeds anywhere in its tree publishes one change: on the exchange and the routing
-- key of the root, with the path of the variable below the root.
import Watchtower.Linking.Space
import Watchtower.Proofs.Blueprint.Space
import Watchtower.Proofs.Live.Run
import Watchtower.Proofs.Outcome
import Watchtower.Proofs.Tables
import Watchtower.Proofs.Text.Pieces

namespace Watchtower

open Text (Undotted)

/-! ## Trees of proxies -/

namespace Text

theorem join_snoc {sep last : String} {items : List String} (h : items ≠ []) :
    join sep (items ++ [last]) = join sep items ++ sep ++ last := by
  induction items with
  | nil => exact absurd rfl h
  | cons s rest ih =>
    by_cases hrest : rest = []
    · subst hrest
      rfl
    · rw [List.cons_append, join_cons (by simp), ih hrest, join_cons hrest]
      simp [String.append_assoc]

end Text

namespace Linking

open Live

theorem mem_buildAll {parent : String} {shapes : List Shape} {name : String} {p : Proxy}
    (h : (name, p) ∈ Proxy.buildAll parent shapes) :
    ∃ shape ∈ shapes, shape.name = name ∧ p = Proxy.build (parent ++ "." ++ name) shape := by
  induction shapes with
  | nil => cases h
  | cons shape rest ih =>
    obtain ⟨first, vars, children⟩ := shape
    rw [Proxy.buildAll] at h
    rcases List.mem_cons.mp h with heq | hrest
    · cases heq
      exact ⟨_, List.mem_cons_self, rfl, rfl⟩
    · obtain ⟨shape, hmem, hname, hp⟩ := ih hrest
      exact ⟨shape, List.mem_cons_of_mem _ hmem, hname, hp⟩

/-- The shapes of children are those of blueprints, under names without dots. -/
theorem mem_childShapes {nested : List Blueprint} {shape : Shape} (h : shape ∈ childShapes nested) :
    Undotted shape.name ∧ ∃ b, shape = shapeOf shape.name b := by
  induction nested with
  | nil => simp [childShapes] at h
  | cons b rest ih =>
    obtain ⟨type, qualifiedName, kind, doc, fields, constructor, methods, nested⟩ := b
    unfold childShapes at h
    split at h
    · rcases List.mem_cons.mp h with rfl | hrest
      · exact ⟨Text.lastDotted_undotted _, _, rfl⟩
      · exact ih hrest
    · exact ih h

theorem shapeOf_name (name : String) (b : Blueprint) : (shapeOf name b).name = name := by
  obtain ⟨_, _, _, _, _, _, _, _⟩ := b
  rw [shapeOf]

theorem build_qualifiedName (qualifiedName : String) (shape : Shape) :
    (Proxy.build qualifiedName shape).qualifiedName = qualifiedName := by
  obtain ⟨name, vars, children⟩ := shape
  rw [Proxy.build]

/-- Where names lead from a node, they are those of children and make up the qualified name. -/
theorem descend_build {qualifiedName name : String} {b : Blueprint} {path : List String}
    {node : Proxy} (h : (Proxy.build qualifiedName (shapeOf name b)).descend? path = some node) :
    (∀ s ∈ path, Undotted s) ∧ ∃ name' b',
      node = Proxy.build (Text.join "." (qualifiedName :: path)) (shapeOf name' b') := by
  induction path generalizing qualifiedName name b with
  | nil =>
    cases h
    exact ⟨by simp, name, b, rfl⟩
  | cons child rest ih =>
    rw [Proxy.descend?] at h
    obtain ⟨p, hchild, hrest⟩ := Option.bind_eq_some_iff.mp h
    obtain ⟨_, _, _, _, _, _, methods, nested⟩ := b
    have hmem : (child, p) ∈ Proxy.buildAll qualifiedName (childShapes nested) := by
      apply Sorted.mem_of_mem_ofList
      apply mem_of_lookup
      simpa [Proxy.child?, shapeOf, Proxy.build] using hchild
    obtain ⟨shape, hshape, hname, rfl⟩ := mem_buildAll hmem
    obtain ⟨hdots, b', hb'⟩ := mem_childShapes hshape
    rw [hname] at hdots hb'
    rw [hb'] at hrest
    obtain ⟨hpath, name'', b'', hnode⟩ := ih hrest
    refine ⟨?_, name'', b'', ?_⟩
    · intro s hs
      rcases List.mem_cons.mp hs with rfl | hs
      · exact hdots
      · exact hpath s hs
    · rw [hnode]
      rw [Text.join_append_cons]

/-- The variables of a node have names without dots. -/
theorem undotted_of_lookup_vars {qualifiedName name variable_ : String} {b : Blueprint}
    (h : ((Proxy.build qualifiedName (shapeOf name b)).vars.lookup variable_).isSome) :
    Undotted variable_ := by
  obtain ⟨_, _, _, _, _, _, methods, nested⟩ := b
  obtain ⟨setter, hlookup⟩ := Option.isSome_iff_exists.mp h
  have hmem : (variable_, setter) ∈ shapeVariables methods := by
    apply Sorted.mem_of_mem_ofList
    apply mem_of_lookup
    simpa [shapeOf, Proxy.build] using hlookup
  unfold shapeVariables at hmem
  obtain ⟨m, -, hm⟩ := List.mem_filterMap.mp hmem
  split at hm
  · cases hm
    exact Text.lastDotted_undotted _
  · cases hm

theorem descend_handle {h d : Handle} {path : List String} (hd : h.descend? path = some d) :
    h.proxy.descend? path = some d.proxy ∧ d.connection = h.connection := by
  induction path generalizing h with
  | nil =>
    cases hd
    exact ⟨rfl, rfl⟩
  | cons child rest ih =>
    rw [Handle.descend?] at hd
    obtain ⟨c, hchild, hrest⟩ := Option.bind_eq_some_iff.mp hd
    unfold Handle.child? at hchild
    obtain ⟨p, hp, rfl⟩ := Option.map_eq_some_iff.mp hchild
    obtain ⟨hdescend, hconnection⟩ := ih hrest
    exact ⟨by rw [Proxy.descend?, hp]; exact hdescend, hconnection⟩

/-! ## Linking a root -/

theorem Link.ofRun_of_ok {α : Type} {run : Run α} {name : String} {w w' : World} {a : α}
    (h : run w = (.ok a, w')) : Link.ofRun name run w = (.ok a, w') := by
  unfold Link.ofRun
  rw [h]

/-- A variable of the tree as it is registered: under the names that lead to it, with the value
that it begins with. -/
def IsInitial (bindings : Bindings) (path : String) (body : List Source.SpaceItem)
    (entry : String × Json × Bool) : Prop :=
  ∃ names inner v value, Source.Leads body names inner ∧ .variable v ∈ inner ∧
    bindings.initial (Text.join "." (path :: (names ++ [v.name]))) v.initializer = .ok value ∧
    entry = (Text.join "." (path :: (names ++ [v.name])), value, false)

/-- Where all variables of a tree have values to begin with, its storage registers these. -/
theorem registrationsOf_eq_ok {bindings : Bindings} {storage : Blueprint} {path : String}
    {body : List Source.SpaceItem} (hc : storage.constructor = registrations path body)
    (hvalues : ∀ names inner v, Source.Leads body names inner → .variable v ∈ inner →
      Succeeds (bindings.initial (Text.join "." (path :: (names ++ [v.name]))) v.initializer)) :
    ∃ entries, registrationsOf bindings storage = .ok entries ∧
      ∀ entry, entry ∈ entries ↔ IsInitial bindings path body entry := by
  obtain ⟨entries, hentries⟩ : Succeeds (registrationsOf bindings storage) := by
    unfold registrationsOf
    rw [succeeds_mapM, hc]
    rintro ⟨name, initializer, writable⟩ hmem
    obtain ⟨stmt, hstmt, heq⟩ := List.mem_filterMap.mp hmem
    obtain ⟨names, inner, v, hleads, hv, rfl⟩ := mem_registrations_iff.mp hstmt
    cases heq
    exact succeeds_bind_pure.mpr (hvalues names inner v hleads hv)
  refine ⟨entries, hentries, ?_⟩
  intro entry
  unfold registrationsOf at hentries
  rw [mem_iff_of_mapM_eq_ok hentries, hc]
  constructor
  · rintro ⟨⟨name, initializer, writable⟩, hmem, hentry⟩
    obtain ⟨stmt, hstmt, heq⟩ := List.mem_filterMap.mp hmem
    obtain ⟨names, inner, v, hleads, hv, rfl⟩ := mem_registrations_iff.mp hstmt
    cases heq
    obtain ⟨value, hvalue, hok⟩ := bind_eq_ok.mp hentry
    cases hok
    exact ⟨names, inner, v, value, hleads, hv, hvalue, rfl⟩
  · rintro ⟨names, inner, v, value, hleads, hv, hvalue, rfl⟩
    have hstmt : Registers path body (.registerVariable _ v.initializer false) :=
      ⟨names, inner, v, hleads, hv, rfl⟩
    rw [← mem_registrations_iff] at hstmt
    exact ⟨_, List.mem_filterMap.mpr ⟨_, hstmt, rfl⟩, bind_eq_ok.mpr ⟨value, hvalue, rfl⟩⟩

/-- The connection of a root namespace of a package to a store. -/
def rootConnection (package : Option String) (root : String) (store : Nat) : Connection :=
  { space := root, exchange := Source.qualify package (Naming.pascal root), store }

/-- The node of a linked root with a connection. -/
def rootHandle (package : Option String) (decl : Source.Namespace) (connection : Nat) : Handle :=
  Handle.ofShape (shapeOf decl.name (Blueprint.ofSpace package decl)) (some connection)

/-- A root is not linked where its name is taken. -/
theorem linkSpace_of_taken (bindings : Bindings) (store : Nat) (package : Option String)
    {decl : Source.Namespace} {w : World} {handle : Handle}
    (htaken : w.spaces.lookup decl.name = some handle) :
    ∃ refusal, linkSpace bindings store (Blueprint.ofSpace package decl) w =
      (.error refusal, w) := by
  have hkind : (Blueprint.ofSpace package decl).kind = .namespaceProxy decl.name decl.name := rfl
  unfold linkSpace
  simp only [hkind]
  rw [get_bind, htaken]
  exact ⟨_, rfl⟩

/-- Linking a root whose name is not taken connects it within its failure boundary, and keeps it
under its name whatever came of that. -/
theorem linkSpace_of_guarded (bindings : Bindings) (store : Nat) (package : Option String)
    {decl : Source.Namespace} {w : World} (hfree : w.spaces.lookup decl.name = none) :
    ∃ storage : Blueprint, storage.constructor = registrations decl.name decl.body ∧
      ∀ connection w', Run.guarded (Naming.pascal decl.name ++ "::new")
          (connectSpace bindings store storage decl.name
            (Source.qualify package (Naming.pascal decl.name))) w = (.ok connection, w') →
        linkSpace bindings store (Blueprint.ofSpace package decl) w =
          (.ok (Handle.ofShape (shapeOf decl.name (Blueprint.ofSpace package decl)) connection),
            { w' with
              spaces := Sorted.insert decl.name
                (Handle.ofShape (shapeOf decl.name (Blueprint.ofSpace package decl)) connection)
                w'.spaces }) := by
  generalize hb : Blueprint.ofSpace package decl = b
  have hkind : b.kind = .namespaceProxy decl.name decl.name := by rw [← hb]; rfl
  obtain ⟨storage, hkept, hregister⟩ : ∃ storage : Blueprint,
      b.nested.find? (·.kind == .namespaceStorage) = some storage ∧
        storage.constructor = registrations decl.name decl.body := by
    rw [← hb]
    exact ⟨_, rfl, rfl⟩
  have hconstructor : b.constructor = [.guarded (Naming.pascal decl.name ++ "::new")
      [.connectStore decl.name (Source.qualify package (Naming.pascal decl.name))]] := by
    rw [← hb]
    rfl
  refine ⟨storage, hregister, ?_⟩
  intro connection w' hguarded
  have hrun : runConstructor bindings store b storage w = (.ok connection, w') := by
    unfold runConstructor
    simp only [hconstructor, List.foldlM_cons, List.foldlM_nil, bind_pure]
    exact Link.ofRun_of_ok hguarded
  unfold linkSpace
  simp only [hkind]
  rw [get_bind, hfree]
  simp only [Option.isSome_none, Bool.false_eq_true, if_false, hkept]
  show (runConstructor bindings store b storage >>= _) w = _
  rw [bind_of_ok hrun, modify_bind]
  rfl

/-- A root whose name is not taken and whose variables have values is linked: it gets a
connection of its own, its variables are registered, and it is kept under its name. -/
theorem linkSpace_registers {bindings : Bindings} {store : Nat} (package : Option String)
    {decl : Source.Namespace} {w : World} {s : Store} (hfree : w.spaces.lookup decl.name = none)
    (hstore : w.stores[store]? = some s)
    (hvalues : ∀ names inner v, Source.Leads decl.body names inner → .variable v ∈ inner →
      Succeeds (bindings.initial (Text.join "." (decl.name :: (names ++ [v.name])))
        v.initializer)) :
    ∃ entries, (∀ entry, entry ∈ entries ↔ IsInitial bindings decl.name decl.body entry) ∧
      linkSpace bindings store (Blueprint.ofSpace package decl) w =
        (.ok (rootHandle package decl w.connections.length), { w with
          connections := w.connections ++ [rootConnection package decl.name store]
          stores := w.stores.set store (s.registerAll entries)
          spaces := Sorted.insert decl.name (rootHandle package decl w.connections.length)
            w.spaces }) := by
  obtain ⟨storage, hregister, hlink⟩ := linkSpace_of_guarded bindings store package hfree
  obtain ⟨entries, hregistered, hentries⟩ := registrationsOf_eq_ok hregister hvalues
  have hconnect : connectSpace bindings store storage decl.name
      (Source.qualify package (Naming.pascal decl.name)) w =
        (.ok w.connections.length, { w with
          connections := w.connections ++ [rootConnection package decl.name store]
          stores := w.stores.set store (s.registerAll entries) }) := by
    apply Run.update_of_ok
    simp only [World.connect, hregistered]
    show World.registerAll _ _ _ >>= _ = _
    unfold World.registerAll World.store
    simp [hstore, bind, Except.bind, rootConnection]
    rfl
  exact ⟨entries, hentries, hlink _ _ (Run.guarded_of_ok hconnect)⟩

/-- A root whose initializers are literals is linked. -/
theorem linkSpace_ofSpace (bindings : Bindings) {store : Nat} (package : Option String)
    {decl : Source.Namespace} {w : World} {s : Store} (hfree : w.spaces.lookup decl.name = none)
    (hstore : w.stores[store]? = some s)
    (hliteral : ∀ v, .variable v ∈ Source.SpaceItem.allWithin decl.body →
      v.initializer.IsLiteral) :
    ∃ s', linkSpace bindings store (Blueprint.ofSpace package decl) w =
      (.ok (rootHandle package decl w.connections.length), { w with
        connections := w.connections ++ [rootConnection package decl.name store]
        stores := w.stores.set store s'
        spaces := Sorted.insert decl.name (rootHandle package decl w.connections.length)
          w.spaces }) := by
  have hvalues : ∀ names inner v, Source.Leads decl.body names inner → .variable v ∈ inner →
      Succeeds (bindings.initial (Text.join "." (decl.name :: (names ++ [v.name])))
        v.initializer) := by
    intro names inner v hleads hv
    obtain ⟨literal, hl⟩ := hliteral v (hleads.mem_allWithin hv)
    rw [hl]
    exact ⟨_, rfl⟩
  obtain ⟨entries, -, hlink⟩ := linkSpace_registers package hfree hstore hvalues
  exact ⟨s.registerAll entries, hlink⟩

/-! ## Linking all roots -/

/-- Every linked root has a connection under its canonical name. -/
def HasSpaces (w : World) (package : Option String) (store : Nat) : Prop :=
  ∀ root handle, w.spaces.lookup root = some handle → ∃ b connection,
    handle = Handle.ofShape (shapeOf root b) (some connection) ∧
      w.connections[connection]? = some (rootConnection package root store)

/-- Linking roots with names of their own succeeds, and touches nothing but their connections,
their stores and their names. -/
theorem linkSpaces_ofSpaces (bindings : Bindings) {store : Nat} {package : Option String}
    {decls : List Source.Namespace} {w : World} {s : Store}
    (hnames : (decls.map (·.name)).Nodup) (hfree : ∀ d ∈ decls, w.spaces.lookup d.name = none)
    (hstore : w.stores[store]? = some s)
    (hliteral : ∀ d ∈ decls, ∀ v, .variable v ∈ Source.SpaceItem.allWithin d.body →
      v.initializer.IsLiteral)
    (hspaces : HasSpaces w package store) :
    ∃ connections stores spaces,
      ((decls.map (Blueprint.ofSpace package)).forM fun b => do
          let _ ← linkSpace bindings store b : Link Unit) w =
          (.ok (), { w with connections, stores, spaces }) ∧
        HasSpaces { w with connections, stores, spaces } package store := by
  -- On the roots. A new one takes a name that is free, and leaves the others their connections.
  induction decls generalizing w s with
  | nil => exact ⟨w.connections, w.stores, w.spaces, rfl, hspaces⟩
  | cons decl rest ih =>
    rw [List.map_cons, List.nodup_cons] at hnames
    obtain ⟨s', hlink⟩ := linkSpace_ofSpace bindings package (hfree decl (by simp)) hstore
      (hliteral decl (by simp))
    have hlt : store < w.stores.length := (List.getElem?_eq_some_iff.mp hstore).1
    have hstep : HasSpaces { w with
        connections := w.connections ++ [rootConnection package decl.name store]
        stores := w.stores.set store s'
        spaces := Sorted.insert decl.name (rootHandle package decl w.connections.length)
          w.spaces } package store := by
      intro root handle hlookup
      by_cases hroot : root = decl.name
      · subst hroot
        rw [Sorted.lookup_insert_self] at hlookup
        cases hlookup
        exact ⟨_, _, rfl, by simp⟩
      · rw [Sorted.lookup_insert_of_ne _ _ hroot] at hlookup
        obtain ⟨b, connection, hhandle, hconnection⟩ := hspaces root handle hlookup
        refine ⟨b, connection, hhandle, ?_⟩
        have hold : connection < w.connections.length :=
          (List.getElem?_eq_some_iff.mp hconnection).1
        rw [List.getElem?_append_left hold, hconnection]
    have hothers : ∀ d ∈ rest, (Sorted.insert decl.name
        (rootHandle package decl w.connections.length) w.spaces).lookup d.name = none := by
      intro d hd
      have hne : d.name ≠ decl.name := by
        intro heq
        exact hnames.1 (heq ▸ List.mem_map_of_mem hd)
      rw [Sorted.lookup_insert_of_ne _ _ hne]
      exact hfree d (by simp [hd])
    obtain ⟨connections, stores, spaces, hrest, hall⟩ := ih (s := s') hnames.2 hothers
      (by simp [hlt]) (fun d hd => hliteral d (by simp [hd])) hstep
    refine ⟨connections, stores, spaces, ?_, hall⟩
    refine Eq.trans ?_ hrest
    apply forM_cons_of_ok
    rw [bind_of_ok hlink]
    rfl

/-! ## Writing -/

/-- What a write that succeeds found and did. -/
theorem set_eq_ok {w w' : World} {node : Handle} {name : String} {value previous : Json}
    (h : w.set node name value = .ok (previous, w')) :
    ∃ c s s', (node.proxy.vars.lookup name).isSome ∧ w.connectionOf node = .ok c ∧
      w.store c.store = .ok s ∧ s.set (node.proxy.qualify name) value = .ok (previous, s') ∧
      w' = { w with
        stores := w.stores.set c.store s'
        bus := (w.bus.publish c.exchange c.space
          (c.change (node.proxy.qualify name) previous value)).2 } := by
  obtain ⟨qualified, hwritable, hrest⟩ := bind_eq_ok.mp h
  obtain ⟨readable, hreadable, hsetter⟩ := bind_eq_ok.mp hwritable
  have hqualified : qualified = node.proxy.qualify name ∧
      (node.proxy.vars.lookup name).isSome := by
    unfold Proxy.readable at hreadable
    split at hreadable
    · rename_i hsome
      cases hreadable
      split at hsetter
      · cases hsetter
        exact ⟨rfl, hsome⟩
      · cases hsetter
    · cases hreadable
  obtain ⟨rfl, hsome⟩ := hqualified
  obtain ⟨c, hc, hwrite⟩ := bind_eq_ok.mp hrest
  obtain ⟨⟨replaced, stored⟩, hstored, hpublish⟩ := bind_eq_ok.mp hwrite
  cases hpublish
  obtain ⟨s, hs, hput⟩ := bind_eq_ok.mp hstored
  obtain ⟨⟨old, s'⟩, hset, hok⟩ := bind_eq_ok.mp hput
  cases hok
  exact ⟨c, s, s', hsome, hc, hs, hset, rfl⟩

/-- A write gives the value that could be read before it. -/
theorem store_get_of_set {s s' : Store} {name : String} {value previous : Json}
    (h : s.set name value = .ok (previous, s')) : s.get name = .ok previous := by
  cases s with
  | memory vars =>
    simp only [Store.set] at h
    simp only [Store.get]
    split at h
    · cases h
      rfl
    · cases h
  | database data =>
    simp only [Store.set] at h
    simp only [Store.get]
    split at h
    · obtain ⟨old, hread, hok⟩ := bind_eq_ok.mp h
      cases hok
      exact hread
    · cases h

theorem get_of_set {w w' : World} {node : Handle} {name : String} {value previous : Json}
    (h : w.set node name value = .ok (previous, w')) : w.get node name = .ok previous := by
  obtain ⟨c, s, s', hsome, hc, hs, hset, -⟩ := set_eq_ok h
  have hreadable : node.proxy.readable name = .ok (node.proxy.qualify name) := by
    unfold Proxy.readable
    rw [if_pos hsome]
  exact bind_eq_ok.mpr ⟨_, hreadable, bind_eq_ok.mpr ⟨c, hc,
    bind_eq_ok.mpr ⟨s, hs, store_get_of_set hset⟩⟩⟩

/-- A write that succeeds at a node of a linked root publishes one change: under the canonical
name and the name of the root, with the path of the variable below the root, the value that was
replaced and the one that was written. -/
theorem set_publishes {w w' : World} {package : Option String} {store : Nat} {root : String}
    {handle node : Handle} {path : List String} {name : String} {value previous : Json}
    (hspaces : HasSpaces w package store) (hroot : w.spaces.lookup root = some handle)
    (hnode : handle.descend? path = some node)
    (hset : w.set node name value = .ok (previous, w')) :
    (∀ s ∈ path ++ [name], Undotted s) ∧ ∃ stores, w' = { w with
      stores
      bus := (w.bus.publish (Source.qualify package (Naming.pascal root)) root
        (.change (Text.join "." (path ++ [name])) previous value)).2 } := by
  obtain ⟨b, connection, rfl, hconnection⟩ := hspaces root handle hroot
  obtain ⟨hproxy, hheld⟩ := descend_handle hnode
  obtain ⟨hpath, name', b', hbuilt⟩ := descend_build hproxy
  obtain ⟨c, s, s', hsome, hc, -, -, rfl⟩ := set_eq_ok hset
  have hconn : w.connectionOf node = .ok (rootConnection package root store) := by
    unfold World.connectionOf World.connection?
    rw [hheld]
    simp [Handle.ofShape, hconnection, rootConnection]
    rfl
  rw [hconn] at hc
  cases hc
  have hrelative : (rootConnection package root store).relativePath (node.proxy.qualify name) =
      Text.join "." (path ++ [name]) := by
    have hname : node.proxy.qualify name = root ++ "." ++ Text.join "." (path ++ [name]) := by
      have hqualified : node.proxy.qualifiedName = Text.join "." (root :: path) := by
        rw [hbuilt, shapeOf_name, build_qualifiedName]
      rw [Proxy.qualify, hqualified, ← Text.join_snoc (by simp), List.cons_append,
        Text.join_cons (by simp)]
    rw [hname]
    show (Text.after? (root ++ ".") _).getD _ = _
    rw [Text.after?_append, Option.getD_some]
  refine ⟨?_, w.stores.set store s', ?_⟩
  · intro s hs
    rcases List.mem_append.mp hs with hs | hs
    · exact hpath s hs
    · rw [List.mem_singleton.mp hs]
      rw [hbuilt] at hsome
      exact undotted_of_lookup_vars hsome
  · unfold Connection.change
    rw [hrelative]
    rfl

end Linking

end Watchtower
