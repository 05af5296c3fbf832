-- Registering a namespace. The variables of the whole tree get their values before any of them is
-- registered, so a store gets all that it lacks or nothing at all, and what it held stays. Where a
-- value is missing the root has no connection, and no node of its tree can be read or written.
import Watchtower.Proofs.Blueprint.Flattened
import Watchtower.Proofs.Linking.Mirror

namespace Watchtower

namespace Live.Store

/-- A store stays sorted by the names of its variables. -/
theorem names_registerAll_sorted {s : Store} (entries : List (String × Json × Bool))
    (h : s.names.Pairwise (· < ·)) : (s.registerAll entries).names.Pairwise (· < ·) := by
  cases s with
  | memory vars =>
    rw [registerAll_memory]
    exact Sorted.Ascends.foldl_enter h entries
  | database data =>
    rw [registerAll_database]
    exact Sorted.Ascends.foldl_enter h (entries.map asText)

end Live.Store

namespace Linking

open Live
open Source (SpaceItem Leads flattened)
open Text (Undotted)

/-! ## Initial values -/

/-- An initializer has a value: that of a literal, or one that is bound to the name. -/
def HasValue (bindings : Bindings) (name : String) (e : Source.Expr) : Prop :=
  e.IsLiteral ∨ ∃ value, bindings.value name = some (.ok value)

theorem hasValue_iff {bindings : Bindings} {name : String} {e : Source.Expr} :
    HasValue bindings name e ↔ Succeeds (bindings.initial name e) := by
  constructor
  · intro h
    exact initial_succeeds h.resolve_left
  · rintro ⟨value, hvalue⟩
    by_cases hliteral : e.IsLiteral
    · exact .inl hliteral
    · right
      unfold Bindings.initial at hvalue
      split at hvalue
      · exact absurd ⟨_, rfl⟩ hliteral
      · cases hbound : bindings.value name with
        | none =>
          rw [hbound] at hvalue
          cases hvalue
        | some outcome =>
          rw [hbound, Option.getD_some] at hvalue
          exact ⟨value, by rw [hvalue]⟩

/-- The value of a variable of a flattened tree, as it is registered. -/
def initialEntry (bindings : Bindings) (root : String) (entry : List String × Source.Variable) :
    Except Fault (String × Json × Bool) := do
  return (dottedName root entry, ← bindings.initial (dottedName root entry) entry.2.initializer,
    false)

theorem succeeds_initialEntry {bindings : Bindings} {root : String}
    {entry : List String × Source.Variable} : Succeeds (initialEntry bindings root entry) ↔
      HasValue bindings (dottedName root entry) entry.2.initializer := by
  rw [hasValue_iff]
  exact succeeds_bind_pure

theorem initialEntry_eq_error {bindings : Bindings} {root : String}
    {entry : List String × Source.Variable} {fault : Fault} :
    initialEntry bindings root entry = .error fault ↔
      bindings.initial (dottedName root entry) entry.2.initializer = .error fault := by
  unfold initialEntry
  rw [bind_eq_error]
  constructor
  · rintro (hfault | ⟨value, -, hpure⟩)
    · exact hfault
    · cases hpure
  · exact .inl

theorem registrationsOf_eq {bindings : Bindings} {storage : Blueprint} {root : String}
    {body : List SpaceItem} (h : storage.constructor = registrations root body) :
    registrationsOf bindings storage = (flattened body).mapM (initialEntry bindings root) := by
  unfold registrationsOf
  -- All of its statements are registrations, so none is passed over.
  have hall := congrFun (List.filterMap_eq_map (f := fun entry =>
    (dottedName root entry, entry.2.initializer, false))) (flattened body)
  rw [h, registrations_eq, List.filterMap_map]
  exact (congrArg (List.mapM (m := Except Fault) _) hall).trans List.mapM_map

/-! ## Roots without a connection -/

/-- The root of a namespace that could not be connected. -/
def looseHandle (package : Option String) (decl : Source.Namespace) : Handle :=
  Handle.ofShape (shapeOf decl.name (Blueprint.ofSpace package decl)) none

/-- A root one of whose variables has no value is linked without a connection, and the fault is
recorded. -/
theorem linkSpace_of_fault {bindings : Bindings} {store : Nat} (package : Option String)
    {decl : Source.Namespace} {w : World} {fault : Fault}
    (hfree : w.spaces.lookup decl.name = none)
    (hfault : (flattened decl.body).mapM (initialEntry bindings decl.name) = .error fault) :
    linkSpace bindings store (Blueprint.ofSpace package decl) w =
      (.ok (looseHandle package decl), { w.record (Naming.pascal decl.name ++ "::new") fault with
        spaces := Sorted.insert decl.name (looseHandle package decl) w.spaces }) := by
  obtain ⟨storage, hregister, hlink⟩ := linkSpace_of_guarded bindings store package hfree
  refine hlink _ _ (Run.guarded_of_fault (Run.update_of_error ?_))
  rw [registrationsOf_eq hregister, hfault]
  rfl

/-- Where a path leads in the declaration there is a node, and it has no connection. -/
theorem descend_looseHandle (package : Option String) {decl : Source.Namespace}
    (h : IsTidyTree decl.body) {path : List String} {inner : List SpaceItem}
    (hleads : Leads decl.body path inner) :
    ∃ node, (looseHandle package decl).descend? path = some node ∧
      node.proxy = Proxy.build (Text.join "." (decl.name :: path))
        (declaredShape (path.getLastD decl.name) inner) ∧
      node.connection = none := by
  have hroot : (looseHandle package decl).proxy =
      Proxy.build decl.name (declaredShape decl.name decl.body) := by
    unfold looseHandle Handle.ofShape Proxy.ofShape
    rw [shapeOf_ofSpace package h]
    rfl
  obtain ⟨node, hnode, hproxy⟩ := Option.map_eq_some_iff.mp
    ((descend_handle_proxy (looseHandle package decl) path).trans
      (hroot ▸ (descend_build_iff h).mpr ⟨inner, hleads, rfl⟩))
  exact ⟨node, hnode, hproxy, (descend_handle hnode).2⟩

/-- A node without a connection cannot be read or written. -/
theorem disconnected_of_none {w : World} {node : Handle} {qualifiedName name : String}
    {body : List SpaceItem}
    (hproxy : node.proxy = Proxy.build qualifiedName (declaredShape name body))
    (hbody : IsTidyTree body) (hnone : node.connection = none)
    {v : Source.Variable} (hv : .variable v ∈ body) :
    w.get node v.name = .error (.disconnected qualifiedName) ∧
      (v.writable = true →
        ∀ value, w.set node v.name value = .error (.disconnected qualifiedName)) := by
  obtain ⟨-, -, hlookup⟩ := vars_of_build hbody hproxy
  have hvar : node.proxy.vars.lookup v.name = some v.writable :=
    (hlookup _ _).mpr ⟨v, hv, rfl, rfl⟩
  have hreadable : node.proxy.readable v.name = .ok (node.proxy.qualify v.name) := by
    unfold Proxy.readable
    rw [hvar]
    rfl
  have hdisconnected : w.connectionOf node = .error (.disconnected qualifiedName) := by
    unfold World.connectionOf
    rw [hnone, hproxy, build_qualifiedName]
    rfl
  constructor
  · unfold World.get
    rw [hreadable, hdisconnected]
    rfl
  · intro hwritable value
    have hset : node.proxy.writable v.name = .ok (node.proxy.qualify v.name) := by
      unfold Proxy.writable Proxy.hasSetter
      rw [hreadable, hvar, hwritable]
      rfl
    unfold World.set
    rw [hset, hdisconnected]
    rfl

/-- No node in the tree of a root is connected, and no variable can be read or written at its
node. -/
structure IsDisconnected (w : World) (root : Handle) (decl : Source.Namespace) : Prop where
  nodes : ∀ path node, root.descend? path = some node → w.isConnected node = false
  accesses : ∀ path v, (path, v) ∈ flattened decl.body → ∃ node, root.descend? path = some node ∧
    w.get node v.name = .error (.disconnected (Text.join "." (decl.name :: path))) ∧
    (v.writable = true → ∀ value,
      w.set node v.name value = .error (.disconnected (Text.join "." (decl.name :: path))))

theorem isDisconnected_looseHandle (package : Option String) {decl : Source.Namespace}
    (h : IsTidyTree decl.body) (w : World) : IsDisconnected w (looseHandle package decl) decl := by
  constructor
  · intro path node hnode
    unfold World.isConnected
    rw [(descend_handle hnode).2]
    rfl
  · intro path v hmem
    obtain ⟨inner, hleads, hv⟩ := Source.mem_flattened_iff.mp hmem
    obtain ⟨node, hnode, hproxy, hnone⟩ := descend_looseHandle package h hleads
    exact ⟨node, hnode, disconnected_of_none hproxy (h.node hleads) hnone hv⟩

/-! ## Registering a whole tree -/

/-- A store has got those variables of a namespace that it lacked, each with what it keeps of the
value that it begins with, and has kept all else as it was. -/
structure IsRegistered (bindings : Bindings) (decl : Source.Namespace) (s s' : Store) : Prop where
  old : ∀ name kept, s.kept? name = some kept → s'.kept? name = some kept
  new : ∀ entry ∈ flattened decl.body, s.kept? (dottedName decl.name entry) = none →
    ∃ value, bindings.initial (dottedName decl.name entry) entry.2.initializer = .ok value ∧
      s'.kept? (dottedName decl.name entry) = some (s.keeps value, false)
  others : ∀ name, s.kept? name = none →
    (∀ entry ∈ flattened decl.body, dottedName decl.name entry ≠ name) → s'.kept? name = none
  sorted : s.names.Pairwise (· < ·) → s'.names.Pairwise (· < ·)

theorem isRegistered_registerAll {bindings : Bindings} {decl : Source.Namespace}
    {entries : List (String × Json × Bool)} (s : Store)
    (hentries : ∀ entry, entry ∈ entries ↔ IsInitial bindings decl.name decl.body entry)
    (hone : ∀ e ∈ entries, ∀ e' ∈ entries, e.1 = e'.1 → e = e')
    (hvalues : ∀ entry ∈ flattened decl.body,
      Succeeds (bindings.initial (dottedName decl.name entry) entry.2.initializer)) :
    IsRegistered bindings decl s (s.registerAll entries) := by
  constructor
  · intro name kept hkept
    rw [Store.kept_registerAll, hkept, Option.some_or]
  · rintro ⟨path, v⟩ hmem hnone
    obtain ⟨value, hvalue⟩ := hvalues _ hmem
    obtain ⟨inner, hleads, hv⟩ := Source.mem_flattened_iff.mp hmem
    have hentry := (hentries _).mpr ⟨path, inner, v, value, hleads, hv, hvalue, rfl⟩
    refine ⟨value, hvalue, ?_⟩
    rw [Store.kept_registerAll, hnone, Option.none_or, dottedName, lookup_of_unique hone hentry]
    rfl
  · intro name hnone hothers
    have habsent : entries.lookup name = none := by
      rw [List.lookup_eq_none_iff]
      rintro entry hentry
      obtain ⟨path, inner, v, value, hleads, hv, -, rfl⟩ := (hentries entry).mp hentry
      rw [bne_iff_ne]
      exact (hothers (path, v) (Source.mem_flattened_iff.mpr ⟨inner, hleads, hv⟩)).symm
    rw [Store.kept_registerAll, hnone, habsent]
    rfl
  · exact Store.names_registerAll_sorted entries

/-- A namespace that passes its checks and has no names with dots is registered whole or not at
all. Where each variable of the flattened tree has a value, the store gets those that it lacked,
not writable through the store itself, and keeps what it had; the tree is connected, and no fault
is recorded. Otherwise the store is as it was, the first of the missing values is the one fault
that is recorded, for the constructor of the root, and nothing in the tree can be read or
written. -/
theorem a_namespace_is_registered_whole_or_not_at_all {bindings : Bindings}
    (package : Option String) {decl : Source.Namespace} {w : World} {number : Nat} {s : Store}
    (hchecked : Members.checkSpace decl = .ok ())
    (hdots : ∀ name ∈ (Source.Declaration.space decl).names, Undotted name)
    (hfree : w.spaces.lookup decl.name = none) (hstore : w.stores[number]? = some s) :
    ∃ root w', linkSpace bindings number (Blueprint.ofSpace package decl) w = (.ok root, w') ∧
      ((∀ entry ∈ flattened decl.body,
          HasValue bindings (dottedName decl.name entry) entry.2.initializer) →
        (∀ path node, root.descend? path = some node → w'.isConnected node = true) ∧
        w'.failures = w.failures ∧
        ∃ s', w'.stores = w.stores.set number s' ∧ IsRegistered bindings decl s s') ∧
      ((∃ entry ∈ flattened decl.body,
          ¬ HasValue bindings (dottedName decl.name entry) entry.2.initializer) →
        w'.stores = w.stores ∧ IsDisconnected w' root decl ∧
        ∃ before entry after fault, flattened decl.body = before ++ entry :: after ∧
          (∀ earlier ∈ before,
            HasValue bindings (dottedName decl.name earlier) earlier.2.initializer) ∧
          bindings.initial (dottedName decl.name entry) entry.2.initializer = .error fault ∧
          w'.failures = w.failures ++ [⟨Naming.pascal decl.name ++ "::new", fault.message⟩]) := by
  have htidy := isTidyTree_of_checkSpace hchecked hdots
  -- The values come first: unless all of them are there, the store is not touched.
  cases hall : (flattened decl.body).mapM (initialEntry bindings decl.name) with
  | ok results =>
    have hvalues : ∀ entry ∈ flattened decl.body,
        HasValue bindings (dottedName decl.name entry) entry.2.initializer := by
      intro entry hmem
      exact succeeds_initialEntry.mp (succeeds_mapM.mp ⟨results, hall⟩ entry hmem)
    have hinitials : ∀ entry ∈ flattened decl.body,
        Succeeds (bindings.initial (dottedName decl.name entry) entry.2.initializer) :=
      fun entry hmem => hasValue_iff.mp (hvalues entry hmem)
    obtain ⟨entries, hentries, hlink⟩ := linkSpace_registers package hfree hstore
      fun path inner v hleads hv =>
        hinitials (path, v) (Source.mem_flattened_iff.mpr ⟨inner, hleads, hv⟩)
    have hone : ∀ e ∈ entries, ∀ e' ∈ entries, e.1 = e'.1 → e = e' := fun e he e' he' =>
      isInitial_unique htidy hdots ((hentries e).mp he) ((hentries e').mp he')
    refine ⟨_, _, hlink, ?_, ?_⟩
    · intro _
      refine ⟨?_, rfl, _, rfl, isRegistered_registerAll s hentries hone hinitials⟩
      intro path node hnode
      unfold World.isConnected World.connection?
      rw [(descend_handle hnode).2]
      simp [rootHandle, Handle.ofShape, rootConnection]
    · rintro ⟨entry, hmem, hmissing⟩
      exact absurd (hvalues entry hmem) hmissing
  | error fault =>
    obtain ⟨before, entry, after, hsplit, hbefore, hfirst⟩ := mapM_eq_error hall
    have hfault := initialEntry_eq_error.mp hfirst
    refine ⟨_, _, linkSpace_of_fault package hfree hall, ?_, ?_⟩
    · intro hvalues
      have hentry : entry ∈ flattened decl.body := by simp [hsplit]
      obtain ⟨value, hvalue⟩ := hasValue_iff.mp (hvalues entry hentry)
      cases hvalue.symm.trans hfault
    · intro _
      refine ⟨rfl, isDisconnected_looseHandle package htidy _, before, entry, after, fault, hsplit,
        ?_, hfault, rfl⟩
      intro earlier hmem
      exact succeeds_initialEntry.mp (hbefore earlier hmem)

/-- A store that holds one of the variables of a gauge, with another value. -/
def usedStore : Store :=
  .memory [("cpu.load", .ofInt 7, true)]

theorem a_gauge_is_registered_over_a_used_store :
    Members.checkSpace gaugeSpace = .ok () ∧
      (∃ root w' s, linkSpace gaugeBindings 0 (Blueprint.ofSpace (some "demo") gaugeSpace)
          { stores := [usedStore] } = (.ok root, w') ∧
        w'.isConnected root = true ∧ w'.failures = [] ∧ w'.stores = [s] ∧
        s.kept? "cpu.load" = some (.value (.ofInt 7), true) ∧
        s.kept? "cpu.limits.max" = some (.value (.ofInt 100), false) ∧
        s.kept? "max" = none) ∧
      ∃ root w' node, linkSpace {} 0 (Blueprint.ofSpace (some "demo") gaugeSpace)
          { stores := [usedStore] } = (.ok root, w') ∧
        w'.stores = [usedStore] ∧
        w'.failures = [⟨"Cpu::new", (Fault.unbound "cpu.limits.max").message⟩] ∧
        root.descend? ["limits"] = some node ∧
        w'.get node "max" = .error (.disconnected "cpu.limits") ∧
        ∀ value, w'.set node "max" value = .error (.disconnected "cpu.limits") := by
  have hchecked : Members.checkSpace gaugeSpace = .ok () := by rfl
  have hdots : ∀ name ∈ (Source.Declaration.space gaugeSpace).names, Undotted name := by
    decide
  have hflat : flattened gaugeSpace.body =
      [([], ⟨"load", none, .literal (.number "10"), false⟩),
        (["limits"], ⟨"max", none, .source "detect()", true⟩)] := by rfl
  have hlaw := fun bindings => @a_namespace_is_registered_whole_or_not_at_all bindings
    (some "demo") gaugeSpace { stores := [usedStore] } 0 usedStore hchecked hdots rfl rfl
  refine ⟨hchecked, ?_, ?_⟩
  · obtain ⟨root, w', hlink, hwhole, -⟩ := hlaw gaugeBindings
    obtain ⟨hconnected, hfailures, s, hstores, hregistered⟩ := hwhole (by
      rw [hflat]
      rintro entry hmem
      rcases List.mem_pair.mp hmem with rfl | rfl
      · exact .inl ⟨_, rfl⟩
      · exact .inr ⟨_, rfl⟩)
    refine ⟨root, w', s, hlink, hconnected [] root rfl, hfailures, hstores,
      hregistered.old _ _ rfl, ?_, ?_⟩
    · obtain ⟨value, hvalue, hkept⟩ := hregistered.new
        (["limits"], ⟨"max", none, .source "detect()", true⟩) (by simp [hflat]) rfl
      cases hvalue
      exact hkept
    · refine hregistered.others _ rfl ?_
      rw [hflat]
      decide
  · obtain ⟨root, w', hlink, -, hnothing⟩ := hlaw {}
    obtain ⟨hstores, hloose, before, entry, after, fault, hsplit, -, hfault, hfailures⟩ := hnothing
      ⟨(["limits"], ⟨"max", none, .source "detect()", true⟩), by simp [hflat], by
        rintro (⟨literal, hliteral⟩ | ⟨value, hvalue⟩)
        · cases hliteral
        · cases hvalue⟩
    obtain ⟨node, hnode, hget, hset⟩ := hloose.accesses ["limits"]
      ⟨"max", none, .source "detect()", true⟩ (by simp [hflat])
    have hmem : entry ∈ flattened gaugeSpace.body := by simp [hsplit]
    rw [hflat] at hmem
    refine ⟨root, w', node, hlink, hstores, ?_, hnode, hget, hset rfl⟩
    rcases List.mem_pair.mp hmem with rfl | rfl
    · cases hfault
    · cases hfault
      exact hfailures

/-- A namespace with a number below the root whose text is read as another one. -/
def siltSpace : Source.Namespace :=
  ⟨"cpu", [.space "limits" [.variable ⟨"max", none, .literal (.number "12e30"), false⟩] none], none⟩

theorem a_registered_number_is_listed_as_another :
    Members.checkSpace siltSpace = .ok () ∧
      (∀ name ∈ (Source.Declaration.space siltSpace).names, Undotted name) ∧
      (∀ entry ∈ flattened siltSpace.body,
        HasValue {} (dottedName siltSpace.name entry) entry.2.initializer) ∧
      ∃ root w' s listed value,
        linkSpace {} 0 (Blueprint.ofSpace (some "demo") siltSpace) { stores := [.database {}] } =
          (.ok root, w') ∧
        w'.stores = [s] ∧ s.entries = .ok [listed] ∧ listed.name = "cpu.limits.max" ∧
        ({} : Bindings).initial "cpu.limits.max" (.literal (.number "12e30")) = .ok value ∧
        listed.value ≠ value := by
  have hflat : flattened siltSpace.body =
      [(["limits"], ⟨"max", none, .literal (.number "12e30"), false⟩)] := by rfl
  refine ⟨rfl, by decide, ?_, ?_⟩
  · rw [hflat]
    rintro entry hmem
    rw [List.mem_singleton.mp hmem]
    exact .inl ⟨_, rfl⟩
  have hgiven : number? (Source.Literal.number "12e30").value =
      some (.float 5071878651310008752) := by
    decide +kernel
  have hread : (match linkSpace {} 0 (Blueprint.ofSpace (some "demo") siltSpace)
        { stores := [.database {}] } with
      | (.ok _, w') => w'.stores.map fun s =>
          s.entries.toOption.map fun all => all.map fun e => (e.name, number? e.value)
      | _ => []) = [some [("cpu.limits.max", some (.float 5071878651310008751))]] := by
    decide +kernel
  split at hread
  · rename_i root w' hlink
    obtain ⟨s, hstores, hentries⟩ := List.map_eq_singleton_iff.mp hread
    obtain ⟨all, hall, hlist⟩ := Option.map_eq_some_iff.mp hentries
    obtain ⟨listed, rfl, hlisted⟩ := List.map_eq_singleton_iff.mp hlist
    obtain ⟨hname, hnumber⟩ := Prod.mk.inj hlisted
    refine ⟨root, w', s, listed, _, hlink, hstores, toOption_eq_some_iff.mp hall, hname, rfl, ?_⟩
    intro heq
    have hsame := hnumber.symm.trans ((congrArg number? heq).trans hgiven)
    exact absurd hsame (by decide)
  · cases hread

end Linking

end Watchtower
