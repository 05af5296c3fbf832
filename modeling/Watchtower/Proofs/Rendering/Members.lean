-- The members of rendered types. The rosters of the module of a declaration name the fields of
-- every struct and the methods of every impl, those that generated code has of its own among them,
-- at every node of a namespace. In what passes the checks their identifiers are distinct.
import Mathlib.Data.List.Nodup
import Watchtower.Proofs.Blueprint.Checked
import Watchtower.Proofs.Blueprint.Code
import Watchtower.Proofs.Blueprint.Proxies
import Watchtower.Proofs.Blueprint.Space
import Watchtower.Proofs.Naming
import Watchtower.Proofs.Rendering.Layout
import Watchtower.Proofs.Report
import Watchtower.Rendering.Files

namespace Watchtower

open Source (SpaceItem MonitorItem Declaration Leads)
open Naming (Unmarked)

/-- The names of the members of a declaration, at any depth: those that a monitor uses among
them. -/
def Source.Declaration.memberNames : Declaration → List String
  | .monitor decl => decl.usings ++ decl.body.filterMap MonitorItem.name?
  | .space decl => (SpaceItem.allWithin decl.body).map SpaceItem.name

/-! ## Monitors -/

/-- The field of a statement has the name of the statement, and is not shared. -/
theorem fieldOf?_name {scope : MonitorScope} {item : MonitorItem} {f : Field}
    (h : fieldOf? scope item = some f) : item.name? = some f.name ∧ f.shared = false := by
  rcases item with decl | ⟨name, cron | ⟨occurrence, emitter, specifier⟩, span⟩ | decl | source
  · cases h
    exact ⟨rfl, rfl⟩
  · cases h
    exact ⟨rfl, rfl⟩
  · cases h
    exact ⟨rfl, rfl⟩
  · obtain ⟨kind, -, rfl⟩ := Option.map_eq_some_iff.mp h
    exact ⟨rfl, rfl⟩
  · cases h

/-- Where all handlers take events of known types, each statement with a name has a field. -/
theorem names_fieldOf? {scope : MonitorScope} {items : List MonitorItem}
    (h : ∀ decl, .handler decl ∈ items → ∃ kind, EventKind.ofTypeName? decl.paramType = some kind) :
    (items.filterMap (fieldOf? scope)).map (·.name) = items.filterMap MonitorItem.name? := by
  induction items with
  | nil => rfl
  | cons item rest ih =>
    have hrest := ih fun decl hdecl => h decl (List.mem_cons_of_mem _ hdecl)
    cases hfield : fieldOf? scope item with
    | none =>
      have hname : item.name? = none := by
        rcases item with decl | ⟨name, cron | ⟨occurrence, emitter, specifier⟩, span⟩ | decl | source
        · cases hfield
        · cases hfield
        · cases hfield
        · obtain ⟨kind, hkind⟩ := h decl List.mem_cons_self
          simp [fieldOf?, hkind] at hfield
        · rfl
      rw [List.filterMap_cons_none hfield, List.filterMap_cons_none hname, hrest]
    | some f =>
      rw [List.filterMap_cons_some hfield, List.filterMap_cons_some (fieldOf?_name hfield).1,
        List.map_cons, hrest]

/-- The name of a handler. -/
def handlerName? : MonitorItem → Option String
  | .handler decl => some decl.name
  | _ => none

theorem handlerNames_sublist (items : List MonitorItem) :
    (items.filterMap handlerName?).Sublist (items.filterMap MonitorItem.name?) := by
  induction items with
  | nil => exact .slnil
  | cons item rest ih =>
    rcases item with decl | decl | decl | source
    · exact ih.cons _
    · exact ih.cons _
    · exact ih.cons_cons _
    · exact ih

/-- The name of the method that a statement is lowered to, with the next number of a code block. -/
def methodName? (next : Nat) : MonitorItem → Option String
  | .handler decl => some decl.name
  | .code _ => some (codeName next)
  | _ => none

/-- The names of the methods that statements are lowered to. -/
def methodNames (next : Nat) : List MonitorItem → List String
  | [] => []
  | item :: rest => (methodName? next item).toList ++ methodNames (next + codeCount [item]) rest

/-- The methods are those of the handlers and those of the code blocks. -/
theorem methodNames_perm (next : Nat) (items : List MonitorItem) :
    (methodNames next items).Perm
      (items.filterMap handlerName? ++ (List.range' next (codeCount items)).map codeName) := by
  induction items generalizing next with
  | nil => exact .nil
  | cons item rest ih =>
    rcases item with decl | decl | decl | source
    · exact ih next
    · exact ih next
    · exact (ih next).cons decl.name
    · have hcount : codeCount (.code source :: rest) = codeCount rest + 1 :=
        List.countP_cons_of_pos rfl
      rw [hcount, List.range'_succ]
      exact ((ih (next + 1)).cons _).trans List.perm_middle.symm

/-- A statement adds its method to those before it. -/
theorem add_methods {scope : MonitorScope} {before after : MonitorParts} {item : MonitorItem}
    (h : before.add scope item = .ok after) : ∃ methods,
      after.methods = before.methods ++ methods ∧
      methods.map (·.name) = (methodName? (before.names.issued "code") item).toList ∧
      ∀ m ∈ methods, m.overrides = false := by
  rcases item with decl | decl | decl | source
  · cases h
    exact ⟨[], by simp, rfl, nofun⟩
  · obtain ⟨⟨field, type, names⟩, -, hok⟩ := bind_eq_ok.mp h
    cases hok
    exact ⟨[], by simp, rfl, nofun⟩
  · simp only [MonitorParts.add] at h
    split at h
    · cases h
    · cases h
      exact ⟨[_], rfl, rfl, List.forall_mem_singleton.mpr rfl⟩
  · cases h
    exact ⟨[_], rfl, rfl, List.forall_mem_singleton.mpr rfl⟩

theorem foldlM_add_methods {scope : MonitorScope} {items : List MonitorItem}
    {before after : MonitorParts}
    (h : items.foldlM (MonitorParts.add scope) before = .ok after) : ∃ methods,
      after.methods = before.methods ++ methods ∧
      methods.map (·.name) = methodNames (before.names.issued "code") items ∧
      ∀ m ∈ methods, m.overrides = false := by
  induction items generalizing before with
  | nil =>
    cases h
    exact ⟨[], by simp, rfl, nofun⟩
  | cons item rest ih =>
    rw [List.foldlM_cons] at h
    obtain ⟨between, hfirst, hrest⟩ := bind_eq_ok.mp h
    obtain ⟨methods, hmethods, hnames, hplain⟩ := add_methods hfirst
    obtain ⟨others, hothers, hnames', hplain'⟩ := ih hrest
    refine ⟨methods ++ others, ?_, ?_, ?_⟩
    · rw [hothers, hmethods, List.append_assoc]
    · rw [List.map_append, hnames, hnames', (add_numbers hfirst).issued]
      rfl
    · intro m hm
      exact (List.mem_append.mp hm).elim (hplain m) (hplain' m)

/-- The methods of a monitor that override none are those of its handlers and code blocks, and the
one that binds its namespaces. -/
theorem methods_of_ofMonitor {package : Option String} {index : SpaceIndex}
    {decl : Source.Monitor} {b : Blueprint} (h : Blueprint.ofMonitor package index decl = .ok b) :
    (b.methods.filter (!·.overrides)).map (·.name) =
      methodNames 0 decl.body ++ [initializeMethod] := by
  obtain ⟨parts, hparts, hok⟩ := bind_eq_ok.mp h
  cases hok
  obtain ⟨methods, hmethods, hnames, hplain⟩ := foldlM_add_methods hparts
  have hkept : methods.filter (!·.overrides) = methods :=
    List.filter_eq_self.mpr fun m hm => by simp [hplain m hm]
  have hown : parts.methods = methods := hmethods
  have hzero : methods.map (·.name) = methodNames 0 decl.body := hnames
  simp [hown, hkept, hzero, pauseMethod, resumeMethod]

/-- The spelling of a code block is its name. -/
theorem snake_codeName (i : Nat) : Naming.snake (codeName i) = codeName i := by
  have hbase : ∀ c ∈ "code".toList, Naming.IsKept c := Naming.isKept_of_all (by decide)
  exact Naming.snake_numbered hbase i

section Monitors

variable {package : Option String} {index : SpaceIndex} {decl : Source.Monitor} {b : Blueprint}

/-- A method has the name of a member or that of a code block. -/
theorem mem_methodNames {next : Nat} {items : List MonitorItem} {name : String}
    (h : name ∈ methodNames next items) :
    name ∈ items.filterMap MonitorItem.name? ∨ ∃ i, name = codeName i := by
  rcases List.mem_append.mp ((methodNames_perm next items).mem_iff.mp h) with hhandler | hcode
  · exact .inl ((handlerNames_sublist items).subset hhandler)
  · obtain ⟨i, -, rfl⟩ := List.mem_map.mp hcode
    exact .inr ⟨i, rfl⟩

/-- The spellings of members and code blocks are distinct. -/
theorem methodNames_nodup (hcheck : Members.checkMonitor index decl = .ok ()) :
    ((decl.usings ++ methodNames 0 decl.body).map Naming.snake).Nodup := by
  obtain ⟨seen, hmembers⟩ := areMembers_of_checkMonitor hcheck
  have hperm := (methodNames_perm 0 decl.body).append_left decl.usings
  have hsublist : (decl.usings ++ decl.body.filterMap handlerName?).Sublist
      (decl.usings ++ decl.body.filterMap MonitorItem.name?) :=
    (handlerNames_sublist decl.body).append_left decl.usings
  rw [(hperm.map Naming.snake).nodup_iff, ← List.append_assoc, List.map_append, List.nodup_append]
  refine ⟨hmembers.distinct.sublist (hsublist.map _), ?_, ?_⟩
  · have hsame : Naming.snake ∘ codeName = codeName := funext snake_codeName
    rw [List.map_map, hsame]
    exact NameSupply.numbered_nodup "code" 0 _
  · intro a ha c hc heq
    obtain ⟨name, hname, rfl⟩ := List.mem_map.mp ha
    obtain ⟨code, hcode, rfl⟩ := List.mem_map.mp hc
    obtain ⟨i, -, rfl⟩ := List.mem_map.mp hcode
    have hfree := hmembers.unnumbered name (hsublist.subset hname)
    rw [heq, startsWith_snake_codeName] at hfree
    cases hfree

/-- No member and no code block is spelled like a member that every monitor has. -/
theorem snake_not_reserved (hcheck : Members.checkMonitor index decl = .ok ()) :
    ∀ name ∈ decl.usings ++ methodNames 0 decl.body,
      Naming.snake name ∉ Members.monitorReserved := by
  obtain ⟨seen, hmembers⟩ := areMembers_of_checkMonitor hcheck
  intro name hname
  have hmember : name ∈ decl.usings ++ decl.body.filterMap MonitorItem.name? ∨
      ∃ i, name = codeName i := by
    rcases List.mem_append.mp hname with husing | hmethod
    · exact .inl (List.mem_append_left _ husing)
    · exact (mem_methodNames hmethod).imp_left (List.mem_append_right _)
  rcases hmember with hmember | ⟨i, rfl⟩
  · exact hmembers.free name hmember
  · have hplain : ∀ reserved ∈ Members.monitorReserved,
        Text.startsWith reserved "code_" = false := by
      decide
    intro hreserved
    have hcode := startsWith_snake_codeName i
    rw [hplain _ hreserved] at hcode
    cases hcode

/-! ## The members of monitors -/

namespace Rendering

/-- A monitor shares the namespaces that it uses. -/
theorem sharedSpaces_of_isLoweredFrom (h : IsLoweredFrom package index decl b) :
    sharedSpaces b = decl.usings := by
  unfold sharedSpaces
  rw [h.fields, List.filterMap_append, List.filterMap_map]
  refine (congrArg₂ (· ++ ·) (List.filterMap_some : _ = decl.usings) ?_).trans
    (List.append_nil decl.usings)
  rw [List.filterMap_eq_nil_iff]
  intro f hf
  obtain ⟨item, -, hitem⟩ := List.mem_filterMap.mp hf
  have hshared := (fieldOf?_name hitem).2
  split
  · simp [hshared]
  · rfl

/-- The fields of its own that a monitor has are those of its statements. -/
theorem ownFields_of_isLoweredFrom (h : IsLoweredFrom package index decl b) :
    b.fields.filter (!·.shared) =
      decl.body.filterMap (fieldOf? (monitorScope package index decl)) := by
  have husings : (decl.usings.map usingField).filter (!·.shared) = [] := by
    simp [usingField]
  rw [h.fields, List.filter_append, husings, List.nil_append, List.filter_eq_self]
  intro f hf
  obtain ⟨item, -, hitem⟩ := List.mem_filterMap.mp hf
  simp [(fieldOf?_name hitem).2]

/-- The fields of its own that a lowered monitor has are named like its statements. -/
theorem ownNames_of_isLoweredFrom (h : IsLoweredFrom package index decl b) :
    (b.fields.filter (!·.shared)).map (·.name) = decl.body.filterMap MonitorItem.name? := by
  rw [ownFields_of_isLoweredFrom h]
  refine names_fieldOf? fun handler hhandler => ?_
  obtain ⟨type, -, hof⟩ := h.typed hhandler rfl
  cases hof with
  | handler hkind => exact ⟨_, hkind⟩

/-- The thresholds of a predicate are fields with distinct identifiers. -/
theorem predicateFields_nodup {scope : MonitorScope} {event : String} {names names' : NameSupply}
    {node : Source.Specifier} {compiled : CompiledSpecifier}
    (h : CompiledSpecifier.ofSpecifier names node = .ok (compiled, names')) :
    (fieldIdents (Blueprint.ofPredicate scope event compiled).fields).Nodup := by
  have hidents : fieldIdents (Blueprint.ofPredicate scope event compiled).fields =
      (compiled.thresholds.map (·.1)).map Naming.ident := by
    simp [fieldIdents, Blueprint.ofPredicate, CompiledSpecifier.fields, thresholdField]
  have hkept : ∀ c ∈ "threshold".toList, Naming.IsKept c := Naming.isKept_of_all (by decide)
  have hsame : Naming.snake ∘ NameSupply.numbered "threshold" = NameSupply.numbered "threshold" :=
    funext (Naming.snake_numbered hkept)
  rw [hidents, (ofSpecifier_names h).1]
  refine @Naming.ident_nodup [] _ (List.forall_mem_nil _) List.nodup_nil ?_ ?_
    fun _ _ => List.not_mem_nil
  · intro name hname
    obtain ⟨i, -, rfl⟩ := List.mem_map.mp hname
    exact Naming.unmarked_numbered (by decide) i
  · rw [List.map_map, hsame]
    exact NameSupply.numbered_nodup _ _ _

/-- The identifiers of a type with just a constructor are distinct where those of its fields are. -/
theorem plainRosters_nodup {type : String} {fields : List String} (h : fields.Nodup) :
    ∀ entry ∈ plainRosters type fields, entry.idents.Nodup := by
  simp only [plainRosters, List.forall_mem_cons]
  exact ⟨h, List.nodup_singleton _, List.forall_mem_nil _⟩

/-- The types of the members of a monitor have members with distinct identifiers. -/
theorem nestedRosters_nodup {scope : MonitorScope} {item : MonitorItem}
    (h : IsTypeOf scope item b) : ∀ entry ∈ nestedRosters b, entry.idents.Nodup := by
  rcases h with @⟨name, emitter, specifier, span, route, names, names', predicate, -, hpredicate⟩ |
    ⟨-⟩ | ⟨-⟩
  · cases specifier with
    | none =>
      cases hpredicate
      exact plainRosters_nodup (List.nodup_singleton _)
    | some node =>
      obtain ⟨⟨compiled, more⟩, hcompiled, hok⟩ := bind_eq_ok.mp hpredicate
      cases hok
      have hown : [Naming.ident predicateField, "source"].Nodup := by decide
      intro entry hentry
      rcases List.mem_append.mp hentry with hevent | htest
      · exact plainRosters_nodup hown entry hevent
      · obtain ⟨p, hp, hentry⟩ := List.mem_flatMap.mp htest
        rw [List.mem_singleton.mp hp] at hentry
        exact plainRosters_nodup (predicateFields_nodup hcompiled) entry hentry
  · exact plainRosters_nodup (List.nodup_singleton _)
  · unfold Blueprint.ofHandler
    split
    · exact plainRosters_nodup (List.nodup_singleton _)
    · exact plainRosters_nodup (by decide)

end Rendering

/-- The rosters of the type of a monitor: a field for what the monitor declares under a name, and
methods for the namespaces that it uses, its handlers and its code blocks. -/
def Source.Monitor.rosters (decl : Source.Monitor) (type : String) : List Rendering.Roster :=
  [.fields type ("core" :: "context" ::
      (decl.body.filterMap MonitorItem.name?).map Naming.ident),
    .methods type ("new" ::
      (decl.usings ++ methodNames 0 decl.body ++ [initializeMethod]).map Naming.ident)]

/-- The module of a lowered monitor has the rosters of the monitor, and those of the types of its
members. -/
theorem monitorRosters_eq (hlower : Blueprint.ofMonitor package index decl = .ok b) :
    Rendering.monitorRosters b =
      decl.rosters b.name ++ b.nested.flatMap Rendering.nestedRosters := by
  have hfrom := isLoweredFrom_of_ofMonitor hlower
  have hfields : Rendering.fieldIdents (b.fields.filter (!·.shared)) =
      (decl.body.filterMap MonitorItem.name?).map Naming.ident := by
    rw [← Rendering.ownNames_of_isLoweredFrom hfrom, List.map_map]
    rfl
  have hmethods : Rendering.methodIdents (b.methods.filter (!·.overrides)) =
      (methodNames 0 decl.body ++ [initializeMethod]).map Naming.ident := by
    rw [← methods_of_ofMonitor hlower, List.map_map]
    rfl
  rw [Rendering.monitorRosters, hfields, hmethods, Rendering.sharedSpaces_of_isLoweredFrom hfrom,
    ← List.map_append, ← List.append_assoc]
  rfl

/-- The members of a checked monitor have distinct identifiers. -/
theorem rosters_nodup_of_checkMonitor (hcheck : Members.checkMonitor index decl = .ok ())
    (hnames : ∀ name ∈ (Declaration.monitor decl).memberNames, Unmarked name) (type : String) :
    ∀ entry ∈ decl.rosters type, entry.idents.Nodup := by
  obtain ⟨seen, hmembers⟩ := areMembers_of_checkMonitor hcheck
  simp only [Source.Monitor.rosters, List.forall_mem_cons]
  refine ⟨?fields, ?methods, List.forall_mem_nil _⟩
  case fields =>
    have hsublist : (decl.body.filterMap MonitorItem.name?).Sublist
        (decl.usings ++ decl.body.filterMap MonitorItem.name?) := List.sublist_append_right _ _
    have hfixed : ∀ name ∈ ["core", "context"], Unmarked name := by decide
    have hreserved : ∀ name ∈ ["core", "context"], name ∈ Members.monitorReserved := by decide
    exact Naming.ident_nodup hfixed (by decide)
      (fun name hname => hnames name (hsublist.subset hname))
      (hmembers.distinct.sublist (hsublist.map _))
      (fun name hname hmem => hmembers.free name (hsublist.subset hname) (hreserved _ hmem))
  case methods =>
    have hunmarked : ∀ name ∈ decl.usings ++ methodNames 0 decl.body, Unmarked name := by
      intro name hname
      rcases List.mem_append.mp hname with husing | hmethod
      · exact hnames name (List.mem_append_left _ husing)
      · rcases mem_methodNames hmethod with hmember | ⟨i, rfl⟩
        · exact hnames name (List.mem_append_right _ hmember)
        · exact Naming.unmarked_numbered (by decide) i
    have hfixed : ∀ name ∈ ["new", "initialize"], Unmarked name := by decide
    have hreserved : ∀ name ∈ ["new", "initialize"], name ∈ Members.monitorReserved := by decide
    have hnodup := Naming.ident_nodup hfixed (by decide) hunmarked (methodNames_nodup hcheck)
      (fun name hname hmem => snake_not_reserved hcheck name hname (hreserved _ hmem))
    have hbind : Naming.ident initializeMethod = "initialize" := by decide
    -- The method that binds the namespaces stands behind the others.
    rw [Rendering.Roster.idents, List.map_append, List.map_singleton, hbind]
    exact (List.Perm.nodup_iff ((List.perm_append_singleton "initialize" _).cons "new")).mpr hnodup

end Monitors

/-! ## Proxies -/

/-- The names of the children of a node. -/
def childNames (body : List SpaceItem) : List String :=
  body.filterMap fun
    | .variable _ => none
    | .space name _ _ => some name

/-- The names of the getter and the setter of a variable. -/
def accessorNames (v : Source.Variable) : List String :=
  if v.writable then ["get_" ++ v.name, "set_" ++ v.name] else ["get_" ++ v.name]

/-- The names of the accessors of a node: those of its variables and those of its children. -/
def accessNames (body : List SpaceItem) : List String :=
  (SpaceItem.vars body).flatMap accessorNames ++ childNames body

/-- The members of the blueprint are those of the proxy of a node: a field for each child, and the
accessors as methods. -/
structure IsProxyOf (body : List SpaceItem) (b : Blueprint) : Prop where
  fields : b.fields.map (·.name) = childNames body
  methods : b.methods.map (·.name) = accessNames body

theorem accessors_names (path : String) (v : Source.Variable) :
    (accessors path v).map (·.name) = accessorNames v := by
  unfold accessors accessorNames
  split
  · rfl
  · rfl

theorem allProxies_names (root path type qualifiedName : String) (body : List SpaceItem) :
    (allProxies root path type qualifiedName body).map (·.1) = childNames body := by
  induction body with
  | nil => rfl
  | cons item rest ih =>
    rw [allProxies, List.map_append, ih]
    rcases item with decl | ⟨name, inner, span⟩
    · rfl
    · rfl

theorem isProxyOf_proxy (root path name qualifiedName type canonical : String)
    (body : List SpaceItem) :
    IsProxyOf body (Blueprint.proxy root path name qualifiedName (SpaceItem.vars body)
      (allProxies root path type canonical body)) := by
  have hnames := allProxies_names root path type canonical body
  refine ⟨?_, ?_⟩
  · rw [← hnames]
    simp [Blueprint.proxy, childField]
  · rw [accessNames, ← hnames]
    simp [Blueprint.proxy, childAccessor, List.map_flatMap, accessors_names]

/-- The rosters of the type of a node, given the identifier of the field that leads to the root: a
field for each child, and the accessors as methods. -/
def nodeRosters (link type : String) (body : List SpaceItem) : List Rendering.Roster :=
  [.fields type (link :: (childNames body).map Naming.ident),
    .methods type ("new" :: "connection" :: (accessNames body).map Naming.ident)]

mutual

/-- The rosters of the type of a child and of those below it, in a node with this type. A variable
has none. -/
def Source.SpaceItem.rosters (type : String) : SpaceItem → List Rendering.Roster
  | .variable _ => []
  | .space name body _ =>
    nodeRosters "root" (type ++ Naming.pascal name) body
      ++ SpaceItem.allRosters (type ++ Naming.pascal name) body

/-- The rosters of the types below a node. -/
def Source.SpaceItem.allRosters (type : String) : List SpaceItem → List Rendering.Roster
  | [] => []
  | item :: rest => item.rosters type ++ SpaceItem.allRosters type rest

end

/-- The rosters of a root namespace: its storage, its own type, and a type for each node below. -/
def Source.Namespace.rosters (decl : Source.Namespace) : List Rendering.Roster :=
  let type := Naming.pascal decl.name
  [.fields (type ++ "Storage") [], .methods (type ++ "Storage") ["variables"]]
    ++ nodeRosters "connection" type decl.body ++ SpaceItem.allRosters type decl.body

namespace Rendering

theorem proxyRosters_eq (link : String) (b : Blueprint) :
    proxyRosters link b = [.fields b.name (link :: fieldIdents b.fields),
        .methods b.name ("new" :: "connection" :: methodIdents b.methods)]
      ++ childRosters b.nested := by
  cases b
  rw [proxyRosters]

theorem childRosters_append (first rest : List Blueprint) :
    childRosters (first ++ rest) = childRosters first ++ childRosters rest := by
  induction first with
  | nil => rfl
  | cons b first ih => rw [List.cons_append, childRosters, childRosters, ih, List.append_assoc]

/-- The members of the proxy of a node have the names that the node gives them. -/
theorem proxyRosters_of_isProxyOf {body : List SpaceItem} {b : Blueprint} (h : IsProxyOf body b)
    (link : String) :
    proxyRosters link b = nodeRosters link b.name body ++ childRosters b.nested := by
  have hfields : fieldIdents b.fields = (childNames body).map Naming.ident := by
    rw [← h.fields, List.map_map]
    rfl
  have hmethods : methodIdents b.methods = (accessNames body).map Naming.ident := by
    rw [← h.methods, List.map_map]
    rfl
  rw [proxyRosters_eq, hfields, hmethods, nodeRosters]

mutual

/-- The proxies of a child have the rosters that the tree of its statements tells. -/
theorem childRosters_childProxies (root path type qualifiedName : String) : ∀ item : SpaceItem,
    childRosters ((childProxies root path type qualifiedName item).map (·.2)) = item.rosters type
  | .variable _ => rfl
  | .space name body _ => by
    have hbelow := childRosters_allProxies root (path ++ "." ++ name) (type ++ Naming.pascal name)
      (qualifiedName ++ "." ++ name) body
    rw [childProxies, List.map_singleton, childRosters, childRosters, List.append_nil]
    refine (proxyRosters_of_isProxyOf (isProxyOf_proxy ..) "root").trans ?_
    exact congrArg _ hbelow

theorem childRosters_allProxies (root path type qualifiedName : String) :
    ∀ items : List SpaceItem,
      childRosters ((allProxies root path type qualifiedName items).map (·.2)) =
        SpaceItem.allRosters type items
  | [] => rfl
  | item :: rest => by
    rw [allProxies, List.map_append, childRosters_append,
      childRosters_childProxies root path type qualifiedName item,
      childRosters_allProxies root path type qualifiedName rest, SpaceItem.allRosters]

end

/-- The module of a root namespace has the rosters that the tree of its statements tells. -/
theorem spaceRosters_ofSpace (package : Option String) (decl : Source.Namespace) :
    spaceRosters (Blueprint.ofSpace package decl) = decl.rosters := by
  have hroot := isProxyOf_proxy decl.name decl.name (Naming.pascal decl.name)
    (Source.qualify package (Naming.pascal decl.name)) (Naming.pascal decl.name)
    (Source.qualify package (Naming.pascal decl.name)) decl.body
  have hof : IsProxyOf decl.body (Blueprint.ofSpace package decl) := ⟨hroot.fields, hroot.methods⟩
  have hbelow := childRosters_allProxies decl.name decl.name (Naming.pascal decl.name)
    (Source.qualify package (Naming.pascal decl.name)) decl.body
  rw [spaceRosters, proxyRosters_of_isProxyOf hof, Source.Namespace.rosters, ← hbelow,
    ← List.append_assoc]
  rfl

end Rendering

mutual

/-- A roster of a child is that of the type of one of its nodes. -/
theorem mem_rosters {type : String} {entry : Rendering.Roster} : ∀ item : SpaceItem,
    entry ∈ item.rosters type → ∃ name body span, item = .space name body span ∧
      ∃ below inner, Leads body below inner ∧ ∃ type, entry ∈ nodeRosters "root" type inner
  | .variable _, h => by cases h
  | .space name body span, h => by
    refine ⟨name, body, span, rfl, ?_⟩
    rcases List.mem_append.mp h with hown | hdeep
    · exact ⟨[], body, rfl, _, hown⟩
    · obtain ⟨child, between, span, hchild, below, inner, hleads, hentry⟩ := mem_allRosters body hdeep
      exact ⟨child :: below, inner, ⟨between, span, hchild, hleads⟩, hentry⟩

theorem mem_allRosters {type : String} {entry : Rendering.Roster} : ∀ items : List SpaceItem,
    entry ∈ SpaceItem.allRosters type items → ∃ name body span, .space name body span ∈ items ∧
      ∃ below inner, Leads body below inner ∧ ∃ type, entry ∈ nodeRosters "root" type inner
  | [], h => by cases h
  | item :: rest, h => by
    rcases List.mem_append.mp h with hfirst | hrest
    · obtain ⟨name, body, span, rfl, hbelow⟩ := mem_rosters item hfirst
      exact ⟨name, body, span, List.mem_cons_self, hbelow⟩
    · obtain ⟨name, body, span, hchild, hbelow⟩ := mem_allRosters rest hrest
      exact ⟨name, body, span, List.mem_cons_of_mem _ hchild, hbelow⟩

end

/-- A roster of a root namespace is that of its storage or of the type of one of its nodes. -/
theorem mem_rosters_namespace {decl : Source.Namespace} {entry : Rendering.Roster}
    (h : entry ∈ decl.rosters) : entry.idents = [] ∨ entry.idents = ["variables"] ∨
      ∃ path inner link type, Leads decl.body path inner ∧ link ∈ ["connection", "root"] ∧
        entry ∈ nodeRosters link type inner := by
  rcases List.mem_append.mp h with h | hdeep
  · rcases List.mem_append.mp h with hstorage | hroot
    · simp only [List.mem_cons, List.not_mem_nil, or_false] at hstorage
      rcases hstorage with rfl | rfl
      · exact .inl rfl
      · exact .inr (.inl rfl)
    · exact .inr (.inr ⟨[], decl.body, "connection", _, rfl, by simp, hroot⟩)
  · obtain ⟨name, body, span, hchild, below, inner, hleads, type, hentry⟩ :=
      mem_allRosters decl.body hdeep
    exact .inr (.inr ⟨name :: below, inner, "root", type, ⟨body, span, hchild, hleads⟩, by simp,
      hentry⟩)

/-! ## The members of proxies -/

theorem childNames_sublist (body : List SpaceItem) :
    (childNames body).Sublist (body.map SpaceItem.name) := by
  induction body with
  | nil => exact .slnil
  | cons item rest ih =>
    rcases item with decl | ⟨name, inner, span⟩
    · exact ih.cons _
    · exact ih.cons_cons _

theorem mem_childNames {body : List SpaceItem} {name : String} (h : name ∈ childNames body) :
    ∃ inner span, .space name inner span ∈ body := by
  obtain ⟨item, hitem, heq⟩ := List.mem_filterMap.mp h
  split at heq
  · cases heq
  · cases heq
    exact ⟨_, _, hitem⟩

theorem mem_accessorNames {v : Source.Variable} {name : String} (h : name ∈ accessorNames v) :
    name = "get_" ++ v.name ∨ name = "set_" ++ v.name := by
  unfold accessorNames at h
  split at h
  · simpa using h
  · exact .inl (List.mem_singleton.mp h)

/-- The spelling is that of the getter or the setter of a variable. -/
def IsAccessorOf (v : Source.Variable) (spelling : String) : Prop :=
  spelling = "get_" ++ Naming.snake v.name ∨ spelling = "set_" ++ Naming.snake v.name

theorem isAccessorOf_snake {v : Source.Variable} {name : String} (h : name ∈ accessorNames v) :
    IsAccessorOf v (Naming.snake name) := by
  rcases mem_accessorNames h with rfl | rfl
  · exact .inl (Naming.snake_get _)
  · exact .inr (Naming.snake_set _)

theorem get_ne_set (a b : String) : "get_" ++ a ≠ "set_" ++ b := by
  intro heq
  have hchars := congrArg String.toList heq
  simp at hchars

/-- Accessors of one spelling are those of variables of one spelling. -/
theorem IsAccessorOf.snake_eq {v w : Source.Variable} {spelling : String}
    (h : IsAccessorOf v spelling) (h' : IsAccessorOf w spelling) :
    Naming.snake v.name = Naming.snake w.name := by
  rcases h with rfl | rfl
  · rcases h' with heq | heq
    · exact (String.append_right_inj _).mp heq
    · exact absurd heq (get_ne_set _ _)
  · rcases h' with heq | heq
    · exact absurd heq.symm (get_ne_set _ _)
    · exact (String.append_right_inj _).mp heq

/-- No accessor is spelled like a member that every proxy has. -/
theorem IsAccessorOf.not_reserved {v : Source.Variable} {spelling : String}
    (h : IsAccessorOf v spelling) : spelling ∉ Members.spaceReserved := by
  have hheads : ∀ reserved ∈ Members.spaceReserved, reserved.toList.take 4 ≠ "get_".toList ∧
      reserved.toList.take 4 ≠ "set_".toList := by decide
  intro hmem
  have hhead := hheads spelling hmem
  rcases h with rfl | rfl
  · simp at hhead
  · simp at hhead

/-- The spellings of getters and setters are distinct where those of the variables are. -/
theorem accessorNames_nodup {vars : List Source.Variable}
    (h : ((vars.map (·.name)).map Naming.snake).Nodup) :
    ((vars.flatMap accessorNames).map Naming.snake).Nodup := by
  rw [List.map_map] at h
  rw [List.map_flatMap, List.nodup_flatMap]
  refine ⟨?_, (List.pairwise_map.mp h).imp ?_⟩
  · intro v _
    unfold accessorNames
    split
    · simp [Naming.snake_get, Naming.snake_set]
    · simp
  · intro v w hne spelling hv hw
    obtain ⟨name, hname, rfl⟩ := List.mem_map.mp hv
    obtain ⟨other, hother, heq⟩ := List.mem_map.mp hw
    exact hne ((isAccessorOf_snake hname).snake_eq (heq ▸ isAccessorOf_snake hother))

section Nodes

variable {body : List SpaceItem}

/-- No child is spelled like the accessor of a variable beside it. -/
theorem AreAccessible.not_isAccessorOf (h : AreAccessible body) {v : Source.Variable}
    (hv : v ∈ SpaceItem.vars body) {name : String} (hname : name ∈ childNames body) :
    ¬ IsAccessorOf v (Naming.snake name) := by
  obtain ⟨inner, span, hchild⟩ := mem_childNames hname
  have hapart := List.any_eq_false.mp (h.apart name inner span hchild) v hv
  simpa [IsAccessorOf] using hapart

/-- The accessors of a node are spelled in distinct ways. -/
theorem AreAccessible.accessNames_nodup (h : AreAccessible body) :
    ((accessNames body).map Naming.snake).Nodup := by
  have hdistinct := h.distinct
  rw [← List.map_map] at hdistinct
  rw [accessNames, List.map_append, List.nodup_append]
  refine ⟨?_, hdistinct.sublist ((childNames_sublist body).map _), ?_⟩
  · exact accessorNames_nodup (hdistinct.sublist ((names_vars_sublist body).map _))
  · rintro spelling haccessor _ hchild rfl
    obtain ⟨accessor, hmem, heq⟩ := List.mem_map.mp haccessor
    obtain ⟨v, hv, hname⟩ := List.mem_flatMap.mp hmem
    obtain ⟨child, hmem, rfl⟩ := List.mem_map.mp hchild
    exact h.not_isAccessorOf hv hmem (heq ▸ isAccessorOf_snake hname)

/-- None of them is spelled like a member that every proxy has. -/
theorem AreAccessible.accessNames_free (h : AreAccessible body) :
    ∀ name ∈ accessNames body, Naming.snake name ∉ Members.spaceReserved := by
  intro name hname
  rcases List.mem_append.mp hname with haccessor | hchild
  · obtain ⟨v, -, hname⟩ := List.mem_flatMap.mp haccessor
    exact (isAccessorOf_snake hname).not_reserved
  · obtain ⟨inner, span, hchild⟩ := mem_childNames hchild
    exact h.free (.space name inner span) hchild

theorem accessNames_unmarked (h : ∀ item ∈ body, Unmarked item.name) :
    ∀ name ∈ accessNames body, Unmarked name := by
  intro name hname
  rcases List.mem_append.mp hname with haccessor | hchild
  · obtain ⟨v, hv, hname⟩ := List.mem_flatMap.mp haccessor
    have hvar : Unmarked v.name := h (.variable v) (mem_vars_iff.mp hv)
    rcases mem_accessorNames hname with rfl | rfl
    · simpa [Unmarked] using hvar
    · simpa [Unmarked] using hvar
  · obtain ⟨inner, span, hchild⟩ := mem_childNames hchild
    exact h (.space name inner span) hchild

/-- The members of the type of a node have distinct identifiers where its statements are
accessible. -/
theorem AreAccessible.nodeRosters_nodup (h : AreAccessible body)
    (hnames : ∀ item ∈ body, Unmarked item.name) {link : String}
    (hlink : link ∈ ["connection", "root"]) (type : String) :
    ∀ entry ∈ nodeRosters link type body, entry.idents.Nodup := by
  have hunmarked := accessNames_unmarked hnames
  simp only [nodeRosters, List.forall_mem_cons]
  refine ⟨?fields, ?methods, List.forall_mem_nil _⟩
  case fields =>
    have hsublist : (childNames body).Sublist (accessNames body) := List.sublist_append_right _ _
    have hunmarkedLink : ∀ name ∈ ["connection", "root"], Unmarked name := by decide
    have hreserved : ∀ name ∈ ["connection", "root"], name ∈ Members.spaceReserved := by decide
    exact Naming.ident_nodup (List.forall_mem_singleton.mpr (hunmarkedLink link hlink))
      (List.nodup_singleton link) (fun name hname => hunmarked name (hsublist.subset hname))
      (h.accessNames_nodup.sublist (hsublist.map _))
      (fun name hname hmem => h.accessNames_free name (hsublist.subset hname)
        (List.mem_singleton.mp hmem ▸ hreserved link hlink))
  case methods =>
    have hfixed : ∀ name ∈ ["new", "connection"], Unmarked name := by decide
    have hreserved : ∀ name ∈ ["new", "connection"], name ∈ Members.spaceReserved := by decide
    exact Naming.ident_nodup hfixed (by decide) hunmarked h.accessNames_nodup
      (fun name hname hmem => h.accessNames_free name hname (hreserved _ hmem))

end Nodes

/-- At every node of a checked namespace the members have distinct identifiers. -/
theorem rosters_nodup_of_checkSpace {decl : Source.Namespace}
    (hcheck : Members.checkSpace decl = .ok ())
    (hnames : ∀ name ∈ (Declaration.space decl).memberNames, Unmarked name) :
    ∀ entry ∈ decl.rosters, entry.idents.Nodup := by
  intro entry hentry
  rcases mem_rosters_namespace hentry with hnone | hone | hnode
  · rw [hnone]
    exact List.nodup_nil
  · rw [hone]
    exact List.nodup_singleton _
  · obtain ⟨path, inner, link, type, hleads, hlink, hnode⟩ := hnode
    refine (areAccessible_of_checkSpace hcheck hleads).nodeRosters_nodup ?_ hlink type entry hnode
    intro item hitem
    exact hnames item.name (List.mem_map_of_mem (hleads.mem_allWithin hitem))

/-! ## Modules -/

/-- The structs and impls in the module of a declaration, with the identifiers of their members:
those of a monitor and of its event and handler types, or those of a namespace, its storage and
each node below. -/
def moduleRosters (b : Blueprint) : Declaration → List Rendering.Roster
  | .monitor decl => decl.rosters b.name ++ b.nested.flatMap Rendering.nestedRosters
  | .space decl => decl.rosters

/-- The structs in the module of an accepted declaration, and the impls of types for themselves, are
those of its rosters, with just these members; and in each the members have distinct
identifiers. -/
theorem accepted_declarations_render_distinct_members {package : Option String}
    {index : SpaceIndex} {decl : Declaration} {b : Blueprint} {path : String} {lines : List String}
    (haccepted : Report.outcome true package index decl = .ok b)
    (hnames : ∀ name ∈ decl.memberNames, Unmarked name)
    (hmodule : Rendering.moduleOf b = .ok (path, lines)) :
    Rendering.IsLaidOut lines (moduleRosters b decl) ∧
      ∀ entry ∈ moduleRosters b decl, entry.idents.Nodup := by
  obtain ⟨hcheck, hlower⟩ := outcome_eq_ok.mp haccepted
  have hlaid := Rendering.moduleOf_laidOut hmodule
  cases decl with
  | monitor decl =>
    have hfrom := isLoweredFrom_of_ofMonitor hlower
    rw [Rendering.rosters, hfrom.kind, monitorRosters_eq hlower] at hlaid
    refine ⟨hlaid, fun entry hentry => ?_⟩
    rcases List.mem_append.mp hentry with hown | hnested
    · exact rosters_nodup_of_checkMonitor hcheck hnames b.name entry hown
    · obtain ⟨nested, hmem, hentry⟩ := List.mem_flatMap.mp hnested
      obtain ⟨item, -, htype⟩ := hfrom.types hmem
      exact Rendering.nestedRosters_nodup htype entry hentry
  | space decl =>
    cases hlower
    have hrosters : Rendering.rosters (Blueprint.ofSpace package decl) = decl.rosters :=
      Rendering.spaceRosters_ofSpace package decl
    rw [hrosters] at hlaid
    exact ⟨hlaid, rosters_nodup_of_checkSpace hcheck hnames⟩

/-- A namespace with a child that is named by a keyword. -/
def plantSpace : Source.Namespace :=
  ⟨"plant", [
    .variable ⟨"Level", none, .literal (.number "10"), true⟩,
    .space "type" [.variable ⟨"max", none, .literal (.number "1"), false⟩] none], none⟩

/-- A monitor that uses it, with two code blocks. -/
def plantWatch : Source.Monitor :=
  ⟨"PlantWatch", ["plant"], [
    .variable ⟨"match", none, .literal (.number "1"), false⟩,
    .code "start();",
    .event ⟨"tick", .periodic "* * * * *", none⟩,
    .handler ⟨"onTick", "e", "IntervalEvent", "log(e);", none, none⟩,
    .code "stop();"], none⟩

theorem keywords_are_members_of_a_monitor_and_a_namespace :
    (∃ b path lines, Report.outcome true none ⟨[("plant", "Plant")]⟩ (.monitor plantWatch) = .ok b ∧
      (∀ name ∈ (Declaration.monitor plantWatch).memberNames, Unmarked name) ∧
      Rendering.moduleOf b = .ok (path, lines) ∧
      Rendering.IsLaidOut lines (moduleRosters b (.monitor plantWatch)) ∧
      ∀ entry ∈ moduleRosters b (.monitor plantWatch), entry.idents.Nodup) ∧
    ∃ b path lines, Report.outcome true none {} (.space plantSpace) = .ok b ∧
      (∀ name ∈ (Declaration.space plantSpace).memberNames, Unmarked name) ∧
      Rendering.moduleOf b = .ok (path, lines) ∧
      Rendering.IsLaidOut lines (moduleRosters b (.space plantSpace)) ∧
      ∀ entry ∈ moduleRosters b (.space plantSpace), entry.idents.Nodup := by
  refine ⟨?_, ?_⟩
  · have hnames : ∀ name ∈ (Declaration.monitor plantWatch).memberNames, Unmarked name := by decide
    have haccepted : ∃ b, Report.outcome true none ⟨[("plant", "Plant")]⟩ (.monitor plantWatch) =
        .ok b := ⟨_, rfl⟩
    obtain ⟨b, haccepted⟩ := haccepted
    obtain ⟨hcheck, hlower⟩ := outcome_eq_ok.mp haccepted
    have hmodule : ∃ path lines, Rendering.moduleOf b = .ok (path, lines) := by
      cases hlower
      exact ⟨_, _, rfl⟩
    obtain ⟨path, lines, hmodule⟩ := hmodule
    exact ⟨b, path, lines, haccepted, hnames, hmodule,
      accepted_declarations_render_distinct_members haccepted hnames hmodule⟩
  · have hnames : ∀ name ∈ (Declaration.space plantSpace).memberNames, Unmarked name := by decide
    have haccepted : Report.outcome true none {} (.space plantSpace) =
        .ok (Blueprint.ofSpace none plantSpace) := by rfl
    have hmodule : ∃ path lines, Rendering.moduleOf (Blueprint.ofSpace none plantSpace) =
        .ok (path, lines) := ⟨_, _, rfl⟩
    obtain ⟨path, lines, hmodule⟩ := hmodule
    exact ⟨_, path, lines, haccepted, hnames, hmodule,
      accepted_declarations_render_distinct_members haccepted hnames hmodule⟩

example : plantSpace.rosters = [
    .fields "PlantStorage" [], .methods "PlantStorage" ["variables"],
    .fields "Plant" ["connection", "r#type"],
    .methods "Plant" ["new", "connection", "get_level", "set_level", "r#type"],
    .fields "PlantType" ["root"], .methods "PlantType" ["new", "connection", "get_max"]] := by
  decide

end Watchtower
