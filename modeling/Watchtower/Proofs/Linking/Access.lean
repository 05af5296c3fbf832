-- Calls through linked namespaces. Several roots share one store and one bus, and all their nodes
-- read and write through the connection of their root; yet every variable is a place of its own,
-- and what is read there is what was last written there, whatever was called in between.
import Watchtower.Proofs.Linking.Mirror
import Watchtower.Proofs.Linking.Watching

namespace Watchtower.Linking

open Live
open Source (SpaceItem Leads)
open Text (Undotted)

/-! ## Linking several roots -/

/-- A root namespace, with the package that declares it. -/
abbrev Member := Option String × Source.Namespace

/-- Links roots one after the other, over one store. -/
def linkFamily (bindings : Bindings) (store : Nat) (family : List Member) : Link (List Handle) :=
  family.mapM fun m => linkSpace bindings store (Blueprint.ofSpace m.1 m.2)

theorem initial_of_registrationsOf {bindings : Bindings} {storage : Blueprint} {path : String}
    {body : List SpaceItem} {entries : List (String × Json × Bool)}
    (hc : storage.constructor = registrations path body)
    (h : registrationsOf bindings storage = .ok entries) {names : List String}
    {inner : List SpaceItem} {v : Source.Variable} (hleads : Leads body names inner)
    (hv : .variable v ∈ inner) :
    Succeeds (bindings.initial (Text.join "." (path :: (names ++ [v.name]))) v.initializer) := by
  have hall : Succeeds (registrationsOf bindings storage) := ⟨entries, h⟩
  unfold registrationsOf at hall
  rw [succeeds_mapM, hc] at hall
  have hstmt : Registers path body (.registerVariable _ v.initializer false) :=
    ⟨names, inner, v, hleads, hv, rfl⟩
  rw [← mem_registrations_iff] at hstmt
  exact succeeds_bind_pure.mp (hall _ (List.mem_filterMap.mpr ⟨_, hstmt, rfl⟩))

/-- A root that is linked with a connection had a free name, a store, and a value for each of its
variables. -/
theorem linkSpace_eq_ok {bindings : Bindings} {store : Nat} {package : Option String}
    {decl : Source.Namespace} {w w' : World} {root : Handle}
    (h : linkSpace bindings store (Blueprint.ofSpace package decl) w = (.ok root, w'))
    (hheld : root.connection.isSome) :
    w.spaces.lookup decl.name = none ∧ (∃ s, w.stores[store]? = some s) ∧
      ∀ names inner v, Leads decl.body names inner → .variable v ∈ inner →
        Succeeds (bindings.initial (Text.join "." (decl.name :: (names ++ [v.name])))
          v.initializer) := by
  have hfree : w.spaces.lookup decl.name = none := by
    cases hlookup : w.spaces.lookup decl.name with
    | none => rfl
    | some handle =>
      obtain ⟨refusal, hrefused⟩ := linkSpace_of_taken bindings store package hlookup
      cases hrefused.symm.trans h
  obtain ⟨storage, hregister, hlink⟩ := linkSpace_of_guarded bindings store package hfree
  generalize hexchange : Source.qualify package (Naming.pascal decl.name) = exchange at hlink
  -- The constructor ends well in any case; only without a fault there is a connection.
  cases hconnect : (registrationsOf bindings storage >>= fun entries =>
      (w.connect decl.name exchange store).2.registerAll (w.connect decl.name exchange store).1
        entries >>= fun w' => pure ((w.connect decl.name exchange store).1, w')) with
  | error fault =>
    cases (hlink _ _ (Run.guarded_of_fault (Run.update_of_error hconnect))).symm.trans h
    cases hheld
  | ok connected =>
    obtain ⟨entries, hentries, hregistered⟩ := bind_eq_ok.mp hconnect
    obtain ⟨w₁, hall, -⟩ := bind_eq_ok.mp hregistered
    refine ⟨hfree, ?_, fun names inner v => initial_of_registrationsOf hregister hentries⟩
    unfold World.registerAll World.store World.connect at hall
    simp only [List.getElem?_concat_length] at hall
    cases hs : w.stores[store]? with
    | some s => exact ⟨s, rfl⟩
    | none =>
      rw [hs] at hall
      cases hall

theorem held_of_isConnected {w : World} {root : Handle} (h : w.isConnected root = true) :
    root.connection.isSome := by
  unfold World.isConnected at h
  cases hnumber : root.connection with
  | none => simp [hnumber] at h
  | some number => rfl

/-- The world has a root of the family under its name, connected to the store. -/
def Serves (w : World) (store : Nat) (m : Member) : Prop :=
  ∃ connection, w.spaces.lookup m.2.name = some (rootHandle m.1 m.2 connection) ∧
    w.connections[connection]? = some (rootConnection m.1 m.2.name store)

/-- What was linked and connected stays so. -/
structure Extends (w w' : World) : Prop where
  spaces : ∀ root handle, w.spaces.lookup root = some handle → w'.spaces.lookup root = some handle
  connections : ∀ (number : Nat) (c : Connection), w.connections[number]? = some c →
    w'.connections[number]? = some c

theorem Extends.trans {w w' w'' : World} (h : Extends w w') (h' : Extends w' w'') :
    Extends w w'' where
  spaces _ _ hlookup := h'.spaces _ _ (h.spaces _ _ hlookup)
  connections _ _ hc := h'.connections _ _ (h.connections _ _ hc)

theorem Serves.mono {w w' : World} {store : Nat} {m : Member} (h : Serves w store m)
    (hext : Extends w w') : Serves w' store m := by
  obtain ⟨connection, hspace, hconnection⟩ := h
  exact ⟨connection, hext.spaces _ _ hspace, hext.connections _ _ hconnection⟩

/-- The names of a root, of what it contains and of its variables have no dots, and the root
passes its checks. -/
structure IsPlain (m : Member) : Prop where
  checked : Members.checkSpace m.2 = .ok ()
  undotted : ∀ name ∈ (Source.Declaration.space m.2).names, Undotted name

theorem IsPlain.isTidyTree {m : Member} (h : IsPlain m) : IsTidyTree m.2.body :=
  isTidyTree_of_checkSpace h.checked h.undotted

/-- A variable of a plain root has a path of names without dots. -/
theorem IsPlain.names {m : Member} (h : IsPlain m) {path : List String} {inner : List SpaceItem}
    {v : Source.Variable} (hleads : Leads m.2.body path inner) (hv : .variable v ∈ inner) :
    ∀ s ∈ m.2.name :: (path ++ [v.name]), Undotted s := by
  intro s hs
  apply h.undotted
  rcases List.mem_cons.mp hs with rfl | hs
  · exact List.mem_cons_self
  · have hdeclares := Source.declares_iff_leads.mpr ⟨inner, v, hleads, hv, rfl⟩
    obtain ⟨item, hitem, rfl⟩ := hdeclares.names s hs
    exact List.mem_cons_of_mem _ (List.mem_map_of_mem hitem)

/-- Roots with other names register other variables. -/
theorem root_of_isInitial {bindings : Bindings} {m m' : Member} (hm : IsPlain m) (hm' : IsPlain m')
    {entry entry' : String × Json × Bool} (h : IsInitial bindings m.2.name m.2.body entry)
    (h' : IsInitial bindings m'.2.name m'.2.body entry') (hname : entry.1 = entry'.1) :
    m.2.name = m'.2.name := by
  obtain ⟨path, inner, v, value, hleads, hv, -, rfl⟩ := h
  obtain ⟨path', inner', v', value', hleads', hv', -, rfl⟩ := h'
  have hnames := Text.join_dots_inj (by simp) (by simp) (hm.names hleads hv)
    (hm'.names hleads' hv') hname
  exact (List.cons.inj hnames).1

/-- What linking a family made of a store: each variable has the value that it begins with,
unless the store had one for it, and nothing else is there that was not. -/
structure IsStocked (bindings : Bindings) (family : List Member) (s₀ s : Store) : Prop where
  keeps : s.keeps = s₀.keeps
  initial : ∀ m ∈ family, ∀ name value, IsInitial bindings m.2.name m.2.body (name, value, false) →
    s.kept? name = (s₀.kept? name).or (some (s₀.keeps value, false))
  other : ∀ name, (∀ m ∈ family, ∀ value,
    ¬ IsInitial bindings m.2.name m.2.body (name, value, false)) → s.kept? name = s₀.kept? name

/-- One root stocks a store with what it registers. -/
theorem isStocked_registerAll {bindings : Bindings} {m : Member} (hm : IsPlain m)
    {entries : List (String × Json × Bool)} (s : Store)
    (hentries : ∀ entry, entry ∈ entries ↔ IsInitial bindings m.2.name m.2.body entry) :
    IsStocked bindings [m] s (s.registerAll entries) := by
  refine ⟨Store.keeps_registerAll .., ?_, ?_⟩
  · intro m' hm' name value hinitial
    cases List.mem_singleton.mp hm'
    have hone : ∀ e ∈ entries, ∀ e' ∈ entries, e.1 = e'.1 → e = e' := fun e he e' he' =>
      isInitial_unique hm.isTidyTree hm.undotted ((hentries e).mp he) ((hentries e').mp he')
    rw [Store.kept_registerAll, lookup_of_unique hone ((hentries _).mpr hinitial)]
    rfl
  · intro name hother
    have hnone : entries.lookup name = none := by
      cases hlookup : entries.lookup name with
      | none => rfl
      | some found =>
        obtain ⟨value, writable⟩ := found
        have hinitial := (hentries _).mp (mem_of_lookup hlookup)
        obtain ⟨path, inner, v, value', hleads, hv, hvalue, heq⟩ := id hinitial
        cases heq
        exact absurd hinitial (hother m (by simp) _)
    rw [Store.kept_registerAll, hnone]
    simp

/-- A store that is stocked by a root, and then by roots of other names, is stocked by all. -/
theorem IsStocked.cons {bindings : Bindings} {m : Member} {family : List Member}
    {s₀ s₁ s : Store} (hm : IsPlain m) (hfamily : ∀ m' ∈ family, IsPlain m')
    (hne : ∀ m' ∈ family, m'.2.name ≠ m.2.name) (h : IsStocked bindings [m] s₀ s₁)
    (hrest : IsStocked bindings family s₁ s) : IsStocked bindings (m :: family) s₀ s := by
  refine ⟨hrest.keeps.trans h.keeps, ?_, ?_⟩
  · intro m' hm' name value hinitial
    rcases List.mem_cons.mp hm' with rfl | hm'
    · have hothers : ∀ other ∈ family, ∀ value,
          ¬ IsInitial bindings other.2.name other.2.body (name, value, false) := by
        intro other hother value' hinitial'
        exact hne other hother (root_of_isInitial (hfamily other hother) hm hinitial' hinitial rfl)
      rw [hrest.other name hothers, h.initial m' (by simp) name value hinitial]
    · have hfirst : ∀ other ∈ [m], ∀ value,
          ¬ IsInitial bindings other.2.name other.2.body (name, value, false) := by
        intro other hother value' hinitial'
        cases List.mem_singleton.mp hother
        exact hne m' hm' (root_of_isInitial (hfamily m' hm') hm hinitial hinitial' rfl)
      rw [hrest.initial m' hm' name value hinitial, h.other name hfirst, h.keeps]
  · intro name hother
    rw [hrest.other name fun m' hm' => hother m' (List.mem_cons_of_mem _ hm'),
      h.other name fun m' hm' => hother m' (by simp [List.mem_singleton.mp hm'])]

/-- What is known of a family that was linked with connections. -/
structure IsLinkedFrom (bindings : Bindings) (store : Nat) (family : List Member) (w₀ w : World) :
    Prop where
  extends_ : Extends w₀ w
  free : ∀ m ∈ family, w₀.spaces.lookup m.2.name = none
  nodup : (family.map (·.2.name)).Nodup
  serves : ∀ m ∈ family, Serves w store m
  values : ∀ m ∈ family, ∀ names inner v, Leads m.2.body names inner → .variable v ∈ inner →
    Succeeds (bindings.initial (Text.join "." (m.2.name :: (names ++ [v.name]))) v.initializer)
  stocked : ∀ s₀, w₀.stores[store]? = some s₀ →
    ∃ s, w.stores[store]? = some s ∧ IsStocked bindings family s₀ s

/-- One root that was linked with a connection. -/
theorem isLinkedFrom_singleton {bindings : Bindings} {store : Nat} {m : Member} {w w' : World}
    {root : Handle} (hm : IsPlain m)
    (h : linkSpace bindings store (Blueprint.ofSpace m.1 m.2) w = (.ok root, w'))
    (hheld : root.connection.isSome) : IsLinkedFrom bindings store [m] w w' := by
  obtain ⟨hfree, ⟨s, hstore⟩, hvalues⟩ := linkSpace_eq_ok h hheld
  obtain ⟨entries, hentries, hlink⟩ := linkSpace_registers m.1 hfree hstore hvalues
  rw [hlink] at h
  cases h
  have hlt : store < w.stores.length := (List.getElem?_eq_some_iff.mp hstore).1
  refine ⟨⟨?spaces, ?connections⟩, by simpa using hfree, by simp, ?serves, by simpa using hvalues,
    ?stocked⟩
  case spaces =>
    intro name handle hlookup
    have hne : name ≠ m.2.name := by
      rintro rfl
      rw [hfree] at hlookup
      cases hlookup
    rwa [Sorted.lookup_insert_of_ne _ _ hne]
  case connections =>
    intro number c hc
    have hold : number < w.connections.length := (List.getElem?_eq_some_iff.mp hc).1
    rwa [List.getElem?_append_left hold]
  case serves =>
    intro m' hm'
    cases List.mem_singleton.mp hm'
    exact ⟨w.connections.length, Sorted.lookup_insert_self .., by simp⟩
  case stocked =>
    intro s₀ hs₀
    rw [hstore] at hs₀
    cases hs₀
    exact ⟨s.registerAll entries, List.getElem?_set_self hlt, isStocked_registerAll hm s hentries⟩

/-- Families that were linked one after the other are one family. -/
theorem IsLinkedFrom.cons {bindings : Bindings} {store : Nat} {m : Member} {family : List Member}
    {w₀ w₁ w : World} (hm : IsPlain m) (hfamily : ∀ m' ∈ family, IsPlain m')
    (h : IsLinkedFrom bindings store [m] w₀ w₁) (hrest : IsLinkedFrom bindings store family w₁ w) :
    IsLinkedFrom bindings store (m :: family) w₀ w := by
  have hserved : Serves w₁ store m := h.serves m (by simp)
  -- The name of the new root is taken, so no later root has it.
  have hne : ∀ m' ∈ family, m'.2.name ≠ m.2.name := by
    intro m' hm' heq
    obtain ⟨connection, hspace, -⟩ := hserved
    have hfree := hrest.free m' hm'
    rw [heq, hspace] at hfree
    cases hfree
  refine ⟨h.extends_.trans hrest.extends_, ?free, ?nodup, ?serves, ?values, ?stocked⟩
  case free =>
    intro m' hm'
    rcases List.mem_cons.mp hm' with rfl | hm'
    · exact h.free m' (by simp)
    · cases hlookup : w₀.spaces.lookup m'.2.name with
      | none => rfl
      | some handle =>
        have hfree := hrest.free m' hm'
        rw [h.extends_.spaces _ _ hlookup] at hfree
        cases hfree
  case nodup =>
    rw [List.map_cons, List.nodup_cons]
    refine ⟨?_, hrest.nodup⟩
    intro hmem
    obtain ⟨m', hm', heq⟩ := List.mem_map.mp hmem
    exact hne m' hm' heq
  case serves =>
    intro m' hm'
    rcases List.mem_cons.mp hm' with rfl | hm'
    · exact hserved.mono hrest.extends_
    · exact hrest.serves m' hm'
  case values =>
    intro m' hm'
    rcases List.mem_cons.mp hm' with rfl | hm'
    · exact h.values m' (by simp)
    · exact hrest.values m' hm'
  case stocked =>
    intro s₀ hs₀
    obtain ⟨s₁, hs₁, hfirst⟩ := h.stocked s₀ hs₀
    obtain ⟨s, hs, hlast⟩ := hrest.stocked s₁ hs₁
    exact ⟨s, hs, hfirst.cons hm hfamily hne hlast⟩

theorem isLinkedFrom_of_linkFamily {bindings : Bindings} {store : Nat} {family : List Member}
    {w₀ w : World} {roots : List Handle} (hplain : ∀ m ∈ family, IsPlain m)
    (h : linkFamily bindings store family w₀ = (.ok roots, w))
    (hheld : ∀ root ∈ roots, root.connection.isSome) :
    IsLinkedFrom bindings store family w₀ w := by
  -- On the roots, in the order in which they are linked.
  induction family generalizing w₀ roots with
  | nil =>
    cases h
    refine ⟨⟨fun _ _ h => h, fun _ _ h => h⟩, by simp, by simp, by simp, by simp, ?_⟩
    exact fun s₀ hs₀ => ⟨s₀, hs₀, rfl, by simp, fun _ _ => rfl⟩
  | cons m rest ih =>
    unfold linkFamily at h
    rw [List.mapM_cons] at h
    obtain ⟨root, w₁, hfirst, hrest⟩ := ok_of_bind h
    obtain ⟨others, w₂, hothers, hok⟩ := ok_of_bind hrest
    cases hok
    have hm := hplain m (by simp)
    have hfamily : ∀ m' ∈ rest, IsPlain m' := fun m' hm' => hplain m' (by simp [hm'])
    exact (isLinkedFrom_singleton hm hfirst (hheld root (by simp))).cons hm hfamily
      (ih hfamily hothers fun root hroot => hheld root (by simp [hroot]))

/-! ## Places -/

/-- The name of a place in the store. -/
def Place.dotted (place : Place) : String :=
  Text.join "." (place.root :: (place.path ++ [place.name]))

/-- A root of the family declares a variable at a place. -/
structure Declared (family : List Member) (place : Place) (m : Member) (v : Source.Variable) :
    Prop where
  member : m ∈ family
  root : m.2.name = place.root
  name : v.name = place.name
  leads : ∃ inner, Leads m.2.body place.path inner ∧ .variable v ∈ inner

section Places

variable {family : List Member} {place : Place} {m : Member} {v : Source.Variable}
  {w : World} {store : Nat} {s : Store} {node : Handle}

theorem Declared.undotted (h : Declared family place m v) (hplain : ∀ m ∈ family, IsPlain m) :
    ∀ name ∈ place.root :: (place.path ++ [place.name]), Undotted name := by
  obtain ⟨inner, hleads, hv⟩ := h.leads
  rw [← h.root, ← h.name]
  exact (hplain m h.member).names hleads hv

/-- Two variables of a family that have one name in the store are at one place. -/
theorem Declared.eq_of_dotted {place' : Place} {m' : Member} {v' : Source.Variable}
    (h : Declared family place m v) (h' : Declared family place' m' v')
    (hplain : ∀ m ∈ family, IsPlain m) (hdotted : place.dotted = place'.dotted) :
    place = place' := by
  have hnames := Text.join_dots_inj (by simp) (by simp) (h.undotted hplain) (h'.undotted hplain)
    hdotted
  obtain ⟨hroot, hrest⟩ := List.cons.inj hnames
  obtain ⟨hpath, hname⟩ := List.append_inj' hrest rfl
  cases place
  cases place'
  simp_all

/-- At a place there is one variable, of one root. -/
theorem Declared.unique {m' : Member} {v' : Source.Variable} (h : Declared family place m v)
    (h' : Declared family place m' v') (hplain : ∀ m ∈ family, IsPlain m)
    (hnodup : (family.map (·.2.name)).Nodup) : m = m' ∧ v = v' := by
  have hm : m = m' := by
    apply eq_of_nodup_filterMap (f := some ∘ (·.2.name)) ?_ h.member h'.member
      (congrArg some h.root) (congrArg some h'.root)
    rwa [List.filterMap_eq_map]
  subst hm
  obtain ⟨inner, hleads, hv⟩ := h.leads
  obtain ⟨inner', hleads', hv'⟩ := h'.leads
  have htidy := (hplain m h.member).isTidyTree
  cases htidy.leads_unique hleads hleads'
  cases (htidy.node hleads).item_unique hv hv' (h.name.trans h'.name.symm)
  exact ⟨rfl, rfl⟩

theorem relativePath_dotted (package : Option String) (store : Nat) (place : Place) :
    (rootConnection package place.root store).relativePath place.dotted = place.below := by
  unfold Connection.relativePath Place.dotted
  rw [Text.join_cons (by simp)]
  show (Text.after? (place.root ++ ".") _).getD _ = _
  rw [Text.after?_append]
  rfl

/-! ## Nodes of a family -/

/-- What is found at a place of a root that is linked: the variables that are declared there, under
the connection of the root. -/
structure IsNodeAt (family : List Member) (w : World) (store : Nat) (place : Place) (m : Member)
    (node : Handle) : Prop where
  qualified : node.proxy.qualify place.name = place.dotted
  vars : ∀ writable, node.proxy.vars.lookup place.name = some writable ↔
    ∃ v, Declared family place m v ∧ v.writable = writable
  connected : w.connectionOf node = .ok (rootConnection m.1 place.root store)

theorem isNodeAt_of_nodeOf (hplain : IsPlain m) (hmember : m ∈ family)
    (hserves : Serves w store m) (hroot : m.2.name = place.root)
    (hnode : nodeOf? w place = some node) : IsNodeAt family w store place m node := by
  obtain ⟨connection, hspace, hconnection⟩ := hserves
  unfold nodeOf? at hnode
  rw [← hroot, hspace, Option.bind_some] at hnode
  have htidy := hplain.isTidyTree
  obtain ⟨inner, hleads⟩ := (descend_rootHandle_isSome m.1 htidy connection place.path).mp
    (by rw [hnode]; rfl)
  obtain ⟨hproxy, hheld⟩ := descend_rootHandle htidy hleads hnode
  obtain ⟨-, -, hlookup⟩ := vars_of_build (htidy.node hleads) hproxy
  refine ⟨?_, ?_, ?_⟩
  · rw [Proxy.qualify, hproxy, build_qualifiedName, ← Text.join_snoc (by simp), hroot]
    rfl
  · intro writable
    rw [hlookup]
    constructor
    · rintro ⟨v, hv, hname, hwritable⟩
      exact ⟨v, ⟨hmember, hroot, hname, inner, hleads, hv⟩, hwritable⟩
    · rintro ⟨v, hdeclared, hwritable⟩
      obtain ⟨inner', hleads', hv⟩ := hdeclared.leads
      cases htidy.leads_unique hleads hleads'
      exact ⟨v, hv, hdeclared.name, hwritable⟩
  · unfold World.connectionOf World.connection?
    rw [hheld, Option.bind_some, hconnection, ← hroot]
    rfl

theorem Declared.nodeOf (h : Declared family place m v) (hplain : IsPlain m)
    (hserves : Serves w store m) : ∃ node, nodeOf? w place = some node := by
  obtain ⟨connection, hspace, -⟩ := hserves
  obtain ⟨inner, hleads, -⟩ := h.leads
  unfold nodeOf?
  rw [← h.root, hspace, Option.bind_some, ← Option.isSome_iff_exists]
  exact (descend_rootHandle_isSome m.1 hplain.isTidyTree connection place.path).mpr ⟨inner, hleads⟩

theorem IsNodeAt.readable (h : IsNodeAt family w store place m node)
    (hdeclared : Declared family place m v) :
    node.proxy.readable place.name = .ok place.dotted := by
  unfold Proxy.readable
  rw [(h.vars v.writable).mpr ⟨v, hdeclared, rfl⟩, h.qualified]
  rfl

/-- A variable is read from the store, under the name of its place. -/
theorem IsNodeAt.get (h : IsNodeAt family w store place m node)
    (hdeclared : Declared family place m v) (hstore : w.stores[store]? = some s) :
    w.get node place.name = s.get place.dotted := by
  unfold World.get
  rw [h.readable hdeclared, h.connected]
  exact World.storeGet_of_store hstore _

/-- A variable with a setter is written in the store, under the name of its place, and the change
is published for its root. -/
theorem IsNodeAt.set_of_writable (h : IsNodeAt family w store place m node)
    (hdeclared : Declared family place m v) (hwritable : v.writable = true)
    (hstore : w.stores[store]? = some s) {kept : Store.Kept} {flag : Bool}
    (hkept : s.kept? place.dotted = some (kept, flag)) (value : Json) :
    w.set node place.name value = (w.get node place.name).map fun previous => (previous, { w with
      stores := w.stores.set store (s.put place.dotted value flag)
      bus := (w.bus.publish (Source.qualify m.1 (Naming.pascal place.root)) place.root
        (.change place.below previous value)).2 }) := by
  have hsetter : node.proxy.hasSetter place.name = true := by
    rw [Proxy.hasSetter, decide_eq_true_iff, h.vars]
    exact ⟨v, hdeclared, hwritable⟩
  have hqualified : node.proxy.writable place.name = .ok place.dotted := by
    unfold Proxy.writable
    rw [h.readable hdeclared]
    simp [bind, Except.bind, hsetter]
  rw [h.get hdeclared hstore, Store.get_of_kept hkept]
  unfold World.set
  rw [hqualified, h.connected]
  refine (World.connectionSet_of_kept hstore hkept value).trans ?_
  simp only [Connection.change, relativePath_dotted]
  rfl

theorem IsNodeAt.set_of_readOnly (h : IsNodeAt family w store place m node)
    (hdeclared : Declared family place m v) (hwritable : v.writable = false) (value : Json)
    (hone : ∀ v', Declared family place m v' → v' = v) :
    w.set node place.name value = .error (.readOnly place.dotted) := by
  have hsetter : node.proxy.hasSetter place.name = false := by
    rw [Proxy.hasSetter, decide_eq_false_iff_not, h.vars]
    rintro ⟨v', hdeclared', hwritable'⟩
    rw [hone v' hdeclared', hwritable] at hwritable'
    cases hwritable'
  unfold World.set Proxy.writable
  rw [h.readable hdeclared]
  simp [bind, Except.bind, hsetter]

/-- What is not declared at a node can be neither read nor written there. -/
theorem IsNodeAt.undeclared (h : IsNodeAt family w store place m node)
    (hnone : ∀ v, ¬ Declared family place m v) :
    w.get node place.name = .error (.unknownMember "variable" place.dotted) ∧
      ∀ value, w.set node place.name value =
        .error (.unknownMember "variable" place.dotted) := by
  have hreadable : node.proxy.readable place.name =
      .error (.unknownMember "variable" place.dotted) := by
    have hlookup : node.proxy.vars.lookup place.name = none := by
      cases hfound : node.proxy.vars.lookup place.name with
      | none => rfl
      | some writable =>
        obtain ⟨v, hdeclared, -⟩ := (h.vars writable).mp hfound
        exact absurd hdeclared (hnone v)
    unfold Proxy.readable
    rw [hlookup, h.qualified]
    rfl
  refine ⟨?_, ?_⟩
  · unfold World.get
    rw [hreadable]
    rfl
  · intro value
    unfold World.set Proxy.writable
    rw [hreadable]
    rfl

end Places

/-! ## Calls -/

/-- A call through the node of a place. -/
inductive Call where
  | get (place : Place)
  | set (place : Place) (value : Json)

def Call.place : Call → Place
  | .get place => place
  | .set place _ => place

/-- What a call gave: of a read the value, of a write the value that it replaced. Where there is
no node, there is no call. -/
abbrev Outcome := Option (Except Fault Json)

/-- Makes a call. -/
def Call.make (w : World) (call : Call) : Outcome × World :=
  match nodeOf? w call.place with
  | none => (none, w)
  | some node =>
    match call with
    | .get place => (some (w.get node place.name), w)
    | .set place value =>
      match w.set node place.name value with
      | .ok (previous, w') => (some (.ok previous), w')
      | .error fault => (some (.error fault), w)

/-- Makes calls one after the other, and keeps their outcomes. -/
def runCalls (w : World) : List Call → List (Call × Outcome) × World
  | [] => ([], w)
  | call :: rest =>
    let (outcome, w) := call.make w
    let (trace, w) := runCalls w rest
    ((call, outcome) :: trace, w)

/-- The value that a call wrote at a place. -/
def writtenAt (place : Place) : Call × Outcome → Option Json
  | (.set written value, some (.ok _)) => if written = place then some value else none
  | _ => none

/-- The value of the last write at a place that succeeded. -/
def latest (place : Place) (trace : List (Call × Outcome)) : Option Json :=
  (trace.filterMap (writtenAt place)).getLast?

theorem latest_append (place : Place) (trace : List (Call × Outcome)) (made : Call × Outcome) :
    latest place (trace ++ [made]) = (writtenAt place made).or (latest place trace) := by
  unfold latest
  rw [List.filterMap_append]
  cases hmade : writtenAt place made with
  | none => simp [hmade]
  | some value => simp [hmade]

/-- A call that is no successful write leaves the world as it was. -/
theorem Call.make_eq {w w' : World} {call : Call} {outcome : Outcome}
    (h : call.make w = (outcome, w')) :
    (w' = w ∧ ∀ place, writtenAt place (call, outcome) = none) ∨
      ∃ place value node previous, call = .set place value ∧ outcome = some (.ok previous) ∧
        nodeOf? w place = some node ∧ w.set node place.name value = .ok (previous, w') := by
  unfold Call.make at h
  split at h
  · cases h
    exact .inl ⟨rfl, fun place => by cases call <;> rfl⟩
  · rename_i node hnode
    cases call with
    | get place =>
      cases h
      exact .inl ⟨rfl, fun place => rfl⟩
    | set place value =>
      simp only at h
      split at h
      · rename_i previous w₁ hset
        cases h
        exact .inr ⟨place, value, node, previous, rfl, rfl, hnode, hset⟩
      · cases h
        exact .inl ⟨rfl, fun place => rfl⟩

/-! ## Runs -/

/-- The family is ready for calls: its roots have names of their own and connections, and the store
has all their variables. -/
structure IsReady (family : List Member) (store : Nat) (w : World) (s : Store) : Prop where
  plain : ∀ m ∈ family, IsPlain m
  nodup : (family.map (·.2.name)).Nodup
  serves : ∀ m ∈ family, Serves w store m
  found : ∀ place m v, Declared family place m v → ∃ found, s.kept? place.dotted = some found

/-- What a store holds after calls: at the places of the family the latest writes, and all else as
before. -/
structure HoldsLatest (family : List Member) (s : Store) (trace : List (Call × Outcome))
    (s₁ : Store) : Prop where
  keeps : s₁.keeps = s.keeps
  places : ∀ place m v, Declared family place m v → s₁.kept? place.dotted =
    (s.kept? place.dotted).map fun (kept, flag) =>
      (((latest place trace).map s.keeps).getD kept, flag)
  other : ∀ name, (∀ place m v, Declared family place m v → place.dotted ≠ name) →
    s₁.kept? name = s.kept? name
  readOnly : ∀ place m v, Declared family place m v → v.writable = false →
    latest place trace = none

/-- What calls leave of the world: only the store and the bus change. -/
structure Follows (family : List Member) (store : Nat) (w : World) (s : Store)
    (trace : List (Call × Outcome)) (w₁ : World) : Prop where
  world : w₁ = { w with stores := w₁.stores, bus := w₁.bus }
  holds : ∃ s₁, w₁.stores[store]? = some s₁ ∧ HoldsLatest family s trace s₁

section Calls

variable {family : List Member} {store : Nat} {w w₁ w₂ : World} {s : Store}
  {trace : List (Call × Outcome)}

theorem Follows.serves (h : Follows family store w s trace w₁) {m : Member}
    (hserves : Serves w store m) : Serves w₁ store m := by
  rw [h.world]
  exact hserves

theorem Follows.isNodeAt (h : Follows family store w s trace w₁)
    (hready : IsReady family store w s) {place : Place} {m : Member} {node : Handle}
    (hm : m ∈ family) (hroot : m.2.name = place.root) (hnode : nodeOf? w₁ place = some node) :
    IsNodeAt family w₁ store place m node :=
  isNodeAt_of_nodeOf (hready.plain m hm) hm (h.serves (hready.serves m hm)) hroot hnode

theorem follows_nil (hs : w.stores[store]? = some s) : Follows family store w s [] w := by
  refine ⟨rfl, s, hs, rfl, ?_, fun _ _ => rfl, fun _ _ _ _ _ => rfl⟩
  intro place m v _
  simp [latest]

/-- Calls that write nothing change nothing. -/
theorem Follows.idle (h : Follows family store w s trace w₁) {made : Call × Outcome}
    (hnone : ∀ place, writtenAt place made = none) :
    Follows family store w s (trace ++ [made]) w₁ := by
  have hlatest : ∀ place, latest place (trace ++ [made]) = latest place trace := by
    intro place
    rw [latest_append, hnone, Option.none_or]
  obtain ⟨s₁, hs₁, hholds⟩ := h.holds
  refine ⟨h.world, s₁, hs₁, hholds.keeps, ?_, hholds.other, ?_⟩
  · intro place m v hdeclared
    rw [hlatest]
    exact hholds.places place m v hdeclared
  · intro place m v hdeclared hwritable
    rw [hlatest]
    exact hholds.readOnly place m v hdeclared hwritable

/-- A value that is put at a place is the latest there, and at no other place. -/
theorem HoldsLatest.put {s₁ : Store} (h : HoldsLatest family s trace s₁)
    (hplain : ∀ m ∈ family, IsPlain m) (hnodup : (family.map (·.2.name)).Nodup)
    {place : Place} {m : Member} {v : Source.Variable} (hdeclared : Declared family place m v)
    (hwritable : v.writable = true) {kept : Store.Kept} {flag : Bool}
    (hkept : s₁.kept? place.dotted = some (kept, flag)) (value previous : Json) :
    HoldsLatest family s (trace ++ [(.set place value, some (.ok previous))])
      (s₁.put place.dotted value flag) := by
  have hlatest : ∀ other, latest other (trace ++ [(.set place value, some (.ok previous))]) =
      if place = other then some value else latest other trace := by
    intro other
    rw [latest_append, writtenAt]
    split <;> simp
  refine ⟨(Store.keeps_put ..).trans h.keeps, ?_, ?_, ?_⟩
  · intro other m' v' hother
    rw [Store.kept_put, hlatest]
    have hbefore := h.places other m' v' hother
    by_cases heq : place = other
    · subst heq
      rw [hkept] at hbefore
      obtain ⟨⟨old, flag'⟩, hold, hsame⟩ := Option.map_eq_some_iff.mp hbefore.symm
      cases hsame
      rw [if_pos rfl, if_pos rfl, hold, h.keeps]
      rfl
    · have hne : other.dotted ≠ place.dotted := by
        intro hdotted
        exact heq (hother.eq_of_dotted hdeclared hplain hdotted).symm
      rw [if_neg hne, if_neg heq]
      exact hbefore
  · intro name hname
    rw [Store.kept_put, if_neg fun heq => hname place m v hdeclared heq.symm]
    exact h.other name hname
  · intro other m' v' hother hreadOnly
    rw [hlatest]
    split
    · rename_i heq
      subst heq
      obtain ⟨-, rfl⟩ := hdeclared.unique hother hplain hnodup
      rw [hwritable] at hreadOnly
      cases hreadOnly
    · exact h.readOnly other m' v' hother hreadOnly

/-- A call keeps what is known of a run. -/
theorem Follows.call (h : Follows family store w s trace w₁) (hready : IsReady family store w s)
    {call : Call} (hroot : call.place.root ∈ family.map (·.2.name)) {outcome : Outcome}
    (hmake : call.make w₁ = (outcome, w₂)) :
    Follows family store w s (trace ++ [(call, outcome)]) w₂ := by
  rcases Call.make_eq hmake with ⟨rfl, hnone⟩ | ⟨place, value, node, previous, rfl, rfl, hnode, hset⟩
  · exact h.idle hnone
  · obtain ⟨m, hm, hname⟩ := List.mem_map.mp hroot
    have hat : IsNodeAt family w₁ store place m node := h.isNodeAt hready hm hname hnode
    obtain ⟨s₁, hs₁, hholds⟩ := h.holds
    -- Only a variable that is declared there, and writable, can have been written.
    obtain ⟨v, hdeclared⟩ : ∃ v, Declared family place m v := by
      by_contra hnone
      rw [(hat.undeclared fun v hv => hnone ⟨v, hv⟩).2] at hset
      cases hset
    have hwritable : v.writable = true := by
      by_contra hnot
      rw [hat.set_of_readOnly hdeclared (by simpa using hnot) value fun v' hv' =>
        (hv'.unique hdeclared hready.plain hready.nodup).2] at hset
      cases hset
    obtain ⟨⟨kept, flag⟩, hkept⟩ : ∃ found, s₁.kept? place.dotted = some found := by
      obtain ⟨found, hbefore⟩ := hready.found place m v hdeclared
      rw [hholds.places place m v hdeclared, hbefore]
      exact ⟨_, rfl⟩
    rw [hat.set_of_writable hdeclared hwritable hs₁ hkept] at hset
    cases hget : w₁.get node place.name with
    | error fault =>
      rw [hget] at hset
      cases hset
    | ok value' =>
      rw [hget] at hset
      cases hset
      refine ⟨?_, _, List.getElem?_set_self (List.getElem?_eq_some_iff.mp hs₁).1,
        hholds.put hready.plain hready.nodup hdeclared hwritable hkept value previous⟩
      rw [h.world]

/-- So does a run of calls. -/
theorem Follows.run {calls : List Call} (h : Follows family store w s trace w₁)
    (hready : IsReady family store w s)
    (hroots : ∀ call ∈ calls, call.place.root ∈ family.map (·.2.name))
    {trace' : List (Call × Outcome)} (hrun : runCalls w₁ calls = (trace', w₂)) :
    Follows family store w s (trace ++ trace') w₂ := by
  induction calls generalizing w₁ trace trace' with
  | nil =>
    cases hrun
    simpa using h
  | cons call rest ih =>
    rw [runCalls] at hrun
    cases hmake : call.make w₁ with
    | mk outcome w' =>
      simp only [hmake] at hrun
      cases hrest : runCalls w' rest with
      | mk rest' w'' =>
        simp only [hrest] at hrun
        cases hrun
        have hstep := h.call hready (hroots call (by simp)) hmake
        have hlast := ih hstep (fun call hcall => hroots call (by simp [hcall])) hrest
        simpa using hlast

end Calls

/-! ## Linked families -/

section Families

variable {bindings : Bindings} {store : Nat} {family : List Member} {w₀ w w₁ : World}
  {place : Place} {m : Member} {v : Source.Variable}

/-- A variable of a linked family has a value to begin with, and is registered with it. -/
theorem IsLinkedFrom.initial (h : IsLinkedFrom bindings store family w₀ w)
    (hdeclared : Declared family place m v) :
    ∃ value, bindings.initial place.dotted v.initializer = .ok value ∧
      IsInitial bindings m.2.name m.2.body (place.dotted, value, false) := by
  obtain ⟨inner, hleads, hv⟩ := hdeclared.leads
  obtain ⟨value, hvalue⟩ := h.values m hdeclared.member place.path inner v hleads hv
  have hdotted : place.dotted = Text.join "." (m.2.name :: (place.path ++ [v.name])) := by
    rw [hdeclared.root, hdeclared.name]
    rfl
  rw [hdotted]
  exact ⟨value, hvalue, place.path, inner, v, value, hleads, hv, hvalue, rfl⟩

theorem IsStocked.kept_of_declared {s₀ s : Store} (h : IsStocked bindings family s₀ s)
    (hlinked : IsLinkedFrom bindings store family w₀ w) (hdeclared : Declared family place m v) :
    ∃ value, bindings.initial place.dotted v.initializer = .ok value ∧
      s.kept? place.dotted = (s₀.kept? place.dotted).or (some (s₀.keeps value, false)) := by
  obtain ⟨value, hvalue, hinitial⟩ := hlinked.initial hdeclared
  exact ⟨value, hvalue, h.initial m hdeclared.member _ value hinitial⟩

theorem IsStocked.kept_of_other {s₀ s : Store} (h : IsStocked bindings family s₀ s) {name : String}
    (hother : ∀ place m v, Declared family place m v → place.dotted ≠ name) :
    s.kept? name = s₀.kept? name := by
  apply h.other
  rintro m hm value ⟨path, inner, v, value', hleads, hv, -, heq⟩
  cases heq
  exact hother ⟨m.2.name, path, v.name⟩ m v ⟨hm, rfl, rfl, inner, hleads, hv⟩ rfl

theorem IsLinkedFrom.isReady {s₀ s : Store} (h : IsLinkedFrom bindings store family w₀ w)
    (hplain : ∀ m ∈ family, IsPlain m) (hstocked : IsStocked bindings family s₀ s) :
    IsReady family store w s := by
  refine ⟨hplain, h.nodup, h.serves, ?_⟩
  intro place m v hdeclared
  obtain ⟨value, -, hkept⟩ := hstocked.kept_of_declared h hdeclared
  rw [hkept, ← Option.isSome_iff_exists, Option.isSome_or]
  simp

/-- Roots are linked over one store, and all of them are connected; then calls are made at nodes of
theirs. A variable holds what was last written there, or else what it had when it was linked: the
value that it begins with, unless the store had one before. What is read is what the store reads
back of it, in memory the value itself. A write gives the value that could be read before, changes
what the store holds of its own variable and nothing else, and publishes one change: under the
canonical name and the name of the root, with the path below the root and both values. A variable
that is not writable stays as it was linked, and no call but a write that succeeds changes
anything. -/
theorem linked_variables_hold_their_latest_writes {roots : List Handle} {s₀ : Store}
    {calls : List Call} {trace : List (Call × Outcome)}
    (hchecked : ∀ m ∈ family, Members.checkSpace m.2 = .ok ())
    (hdots : ∀ m ∈ family, ∀ name ∈ (Source.Declaration.space m.2).names, Undotted name)
    (hstore : w₀.stores[store]? = some s₀)
    (hlink : linkFamily bindings store family w₀ = (.ok roots, w))
    (hconnected : ∀ root ∈ roots, w.isConnected root = true)
    (hcalls : ∀ call ∈ calls, call.place.root ∈ family.map (·.2.name))
    (hrun : runCalls w calls = (trace, w₁)) :
    ∃ s s₁, w.stores[store]? = some s ∧ w₁.stores[store]? = some s₁ ∧
      (∀ (call : Call) outcome w₂, call.make w₁ = (outcome, w₂) → w₂ = w₁ ∨
        ∃ place value previous, call = .set place value ∧ outcome = some (.ok previous)) ∧
      (∀ name, (∀ place m v, Declared family place m v → place.dotted ≠ name) →
        s₁.kept? name = s₀.kept? name) ∧
      (∀ place node, place.root ∈ family.map (·.2.name) → nodeOf? w₁ place = some node →
        (∀ m v, ¬ Declared family place m v) →
        w₁.get node place.name = .error (.unknownMember "variable" place.dotted) ∧
        ∀ value, w₁.set node place.name value =
          .error (.unknownMember "variable" place.dotted)) ∧
      ∀ place m v, Declared family place m v → ∃ node initial kept flag,
        nodeOf? w₁ place = some node ∧
        bindings.initial place.dotted v.initializer = .ok initial ∧
        (s₀.kept? place.dotted).getD (s₀.keeps initial, false) = (kept, flag) ∧
        s.kept? place.dotted = some (kept, flag) ∧
        s₁.kept? place.dotted = some (((latest place trace).map s₀.keeps).getD kept, flag) ∧
        w.get node place.name = kept.read ∧
        w₁.get node place.name = (latest place trace).elim (w.get node place.name) s₀.readBack ∧
        ((∃ vars, s₀ = .memory vars) → Succeeds (w₁.get node place.name)) ∧
        (v.writable = false → latest place trace = none ∧ ∀ value,
          w₁.set node place.name value = .error (.readOnly place.dotted)) ∧
        (v.writable = true → ∀ value, ∃ s₂,
          (∀ other, s₂.kept? other =
            if other = place.dotted then some (s₀.keeps value, flag) else s₁.kept? other) ∧
          w₁.set node place.name value = (w₁.get node place.name).map fun previous =>
            (previous, { w₁ with
              stores := w₁.stores.set store s₂
              bus := (w₁.bus.publish (Source.qualify m.1 (Naming.pascal place.root)) place.root
                (.change place.below previous value)).2 })) := by
  have hplain : ∀ m ∈ family, IsPlain m := fun m hm => ⟨hchecked m hm, hdots m hm⟩
  have hlinked := isLinkedFrom_of_linkFamily hplain hlink fun root hroot =>
    held_of_isConnected (hconnected root hroot)
  obtain ⟨s, hs, hstocked⟩ := hlinked.stocked s₀ hstore
  have hready := hlinked.isReady hplain hstocked
  have hfollows : Follows family store w s trace w₁ := by
    simpa using (follows_nil hs).run hready hcalls hrun
  obtain ⟨s₁, hs₁, hholds⟩ := hfollows.holds
  refine ⟨s, s₁, hs, hs₁, ?_, ?_, ?_, ?_⟩
  · intro call outcome w₂ hmake
    rcases Call.make_eq hmake with ⟨rfl, -⟩ | ⟨place, value, node, previous, hcall, hok, -⟩
    · exact .inl rfl
    · exact .inr ⟨place, value, previous, hcall, hok⟩
  · intro name hother
    rw [hholds.other name hother, hstocked.kept_of_other hother]
  · intro place node hroot hfound hnone
    obtain ⟨m, hm, hname⟩ := List.mem_map.mp hroot
    exact (hfollows.isNodeAt hready hm hname hfound).undeclared (hnone m)
  · intro place m v hdeclared
    obtain ⟨node, hfound⟩ := hdeclared.nodeOf (hplain m hdeclared.member)
      (hfollows.serves (hlinked.serves m hdeclared.member))
    obtain ⟨initial, hinitial, hkept⟩ := hstocked.kept_of_declared hlinked hdeclared
    obtain ⟨⟨kept, flag⟩, hheldNow⟩ := hready.found place m v hdeclared
    have hat := hfollows.isNodeAt hready hdeclared.member hdeclared.root hfound
    have hbefore : IsNodeAt family w store place m node := by
      apply (follows_nil hs).isNodeAt hready hdeclared.member hdeclared.root
      rw [hfollows.world] at hfound
      exact hfound
    have hnow : s₁.kept? place.dotted =
        some (((latest place trace).map s₀.keeps).getD kept, flag) := by
      rw [hholds.places place m v hdeclared, hheldNow, hstocked.keeps]
      rfl
    have hlinkTime : (s₀.kept? place.dotted).getD (s₀.keeps initial, false) = (kept, flag) := by
      rw [← Option.some_inj, ← hheldNow, hkept]
      cases s₀.kept? place.dotted <;> rfl
    have hfirst : w.get node place.name = kept.read := by
      rw [hbefore.get hdeclared hs, Store.get_of_kept hheldNow]
    have hread : w₁.get node place.name =
        (latest place trace).elim (w.get node place.name) s₀.readBack := by
      rw [hat.get hdeclared hs₁, Store.get_of_kept hnow, hfirst]
      cases latest place trace with
      | none => rfl
      | some value => exact Store.read_keeps s₀ value
    refine ⟨node, initial, kept, flag, hfound, hinitial, hlinkTime, hheldNow, hnow, hfirst, hread,
      ?_, ?_, ?_⟩
    · rintro ⟨vars, rfl⟩
      rw [hread]
      cases latest place trace with
      | some value => exact ⟨value, rfl⟩
      | none =>
        have hsucceeds := Store.succeeds_read_memory vars place.dotted initial
        rw [hlinkTime, ← hfirst] at hsucceeds
        exact hsucceeds
    · intro hreadOnly
      refine ⟨hholds.readOnly place m v hdeclared hreadOnly, fun value => ?_⟩
      exact hat.set_of_readOnly hdeclared hreadOnly value fun v' hv' =>
        (hv'.unique hdeclared hplain hlinked.nodup).2
    · intro hwritable value
      refine ⟨s₁.put place.dotted value flag, fun other => ?_,
        hat.set_of_writable hdeclared hwritable hs₁ hnow value⟩
      rw [Store.kept_put, hholds.keeps, hstocked.keeps]

end Families

/-- Two roots over one store: one with a limit that can be written, one with a variable of the
same name. -/
def twoSpaces : List Member := [
  (some "demo", ⟨"cpu", [
    .variable ⟨"load", none, .literal (.bool false), false⟩,
    .space "limits" [.variable ⟨"max", none, .literal (.bool false), true⟩] none], none⟩),
  (some "demo", ⟨"disk", [.variable ⟨"max", none, .literal (.bool false), true⟩], none⟩)]

/-- The place of the limit. -/
def limitPlace : Place := ⟨"cpu", ["limits"], "max"⟩

theorem a_limit_of_two_spaces_holds_its_latest_write :
    ∃ roots w w₁ trace, linkFamily {} 0 twoSpaces { stores := [.memory []] } = (.ok roots, w) ∧
      runCalls w [.set limitPlace (.bool true), .set ⟨"disk", [], "max"⟩ .null] = (trace, w₁) ∧
      latest limitPlace trace = some (.bool true) ∧ ∃ node, nodeOf? w₁ limitPlace = some node ∧
        w₁.get node "max" = .ok (.bool true) := by
  have hsome : (linkFamily {} 0 twoSpaces { stores := [.memory []] }).1.toOption.isSome = true := by
    decide +kernel
  obtain ⟨roots, hroots⟩ := Option.isSome_iff_exists.mp hsome
  have hlink := eq_of_fst_toOption hroots
  generalize hw : (linkFamily {} 0 twoSpaces { stores := [.memory []] }).2 = w at hlink
  have hconnected : ∀ root ∈ roots, w.isConnected root = true := by
    have hall : (linkFamily {} 0 twoSpaces { stores := [.memory []] }).1.toOption.any (·.all
        (linkFamily {} 0 twoSpaces { stores := [.memory []] }).2.isConnected) = true := by
      decide +kernel
    rw [hroots, hw] at hall
    simpa using hall
  obtain ⟨trace, w₁, hrun⟩ : ∃ trace w₁, runCalls w
      [.set limitPlace (.bool true), .set ⟨"disk", [], "max"⟩ .null] = (trace, w₁) := ⟨_, _, rfl⟩
  have hlatest : latest limitPlace trace = some (.bool true) := by
    have htrace : (runCalls w _).1 = trace := congrArg Prod.fst hrun
    rw [← htrace, ← hw]
    rfl
  have hstore : ({ stores := [.memory []] } : World).stores[0]? = some (.memory []) := rfl
  obtain ⟨s, s₁, -, -, -, -, -, hplaces⟩ := linked_variables_hold_their_latest_writes
    (by decide +kernel) (by decide +kernel) hstore hlink hconnected (by decide) hrun
  obtain ⟨node, initial, kept, flag, hnode, -, -, -, -, -, hget, -⟩ := hplaces limitPlace
    (some "demo", ⟨"cpu", _, none⟩) ⟨"max", none, .literal (.bool false), true⟩
    ⟨List.mem_cons_self, rfl, rfl, _, ⟨_, none, List.mem_cons_of_mem _ List.mem_cons_self, rfl⟩,
      List.mem_cons_self⟩
  rw [hlatest] at hget
  exact ⟨roots, w, w₁, trace, hlink, hrun, hlatest, node, hnode, hget⟩

/-- A root with a number that can be written. -/
def meterSpace : List Member :=
  [(some "demo", ⟨"cpu", [.variable ⟨"load", none, .literal (.number "0"), true⟩], none⟩)]

/-- A database gives another number than the one that was last written: the text of 12e30 is read
as its neighbour. -/
theorem a_database_gives_another_number_than_was_written :
    (∀ m ∈ meterSpace, Members.checkSpace m.2 = .ok ()) ∧
      ∃ root w w' previous other,
        linkFamily {} 0 meterSpace { stores := [.database {}] } = (.ok [root], w) ∧
        w.set root "load" (Source.Literal.number "12e30").value = .ok (previous, w') ∧
        w'.get root "load" = .ok other ∧ other ≠ (Source.Literal.number "12e30").value := by
  refine ⟨by decide +kernel, ?_⟩
  have hgiven : number? (Source.Literal.number "12e30").value =
      some (.float 5071878651310008752) := by
    decide +kernel
  generalize hlinked : linkFamily {} 0 meterSpace { stores := [.database {}] } = linked
  have hcount : linked.1.toOption.map List.length = some 1 := by
    rw [← hlinked]
    decide +kernel
  have hread : (linked.1.toOption.bind fun roots => roots.head?.bind fun root =>
      (linked.2.set root "load" (Source.Literal.number "12e30").value).toOption.bind fun written =>
        (written.2.get root "load").toOption.bind number?) =
      some (.float 5071878651310008751) := by
    rw [← hlinked]
    decide +kernel
  obtain ⟨roots, hroots, hread⟩ := Option.bind_eq_some_iff.mp hread
  obtain ⟨root, hroot, hread⟩ := Option.bind_eq_some_iff.mp hread
  obtain ⟨⟨previous, w'⟩, hset, hread⟩ := Option.bind_eq_some_iff.mp hread
  obtain ⟨other, hother, hnumber⟩ := Option.bind_eq_some_iff.mp hread
  have hone : roots = [root] := by
    rw [hroots] at hcount
    obtain ⟨only, rfl⟩ := List.length_eq_one_iff.mp (Option.some.inj hcount)
    cases hroot
    rfl
  rw [hone] at hroots
  refine ⟨root, linked.2, w', previous, other, eq_of_fst_toOption hroots,
    toOption_eq_some_iff.mp hset, toOption_eq_some_iff.mp hother, ?_⟩
  intro heq
  have hsame := hnumber.symm.trans ((congrArg number? heq).trans hgiven)
  exact absurd hsame (by decide)

end Watchtower.Linking
