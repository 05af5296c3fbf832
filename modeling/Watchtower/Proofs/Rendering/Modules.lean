-- Which accepted types can be rendered. Every monitor can, and a root namespace can unless one
-- of its children takes the name of its storage, which is then found in place of the child.
import Watchtower.Proofs.Blueprint.Monitor
import Watchtower.Proofs.Blueprint.Space
import Watchtower.Proofs.Report
import Watchtower.Rendering.Files

namespace Watchtower

open Source (SpaceItem SourceUnit Declaration MonitorItem HandlerDecl)

/-! ## Bodies -/

/-- The statement is neither guarded nor about a type, and calls no base but that of a pause or
a resume. -/
def Stmt.isPlain : Stmt → Bool
  | .guarded .. | .connectStore .. | .registerVariable .. | .dispatchTyped ..
  | .dispatchInterval .. => false
  | .callSuper method => method == "pause" || method == "resume"
  | _ => true

/-- The statement is plain, or guards plain ones. -/
def Stmt.isSimple : Stmt → Bool
  | .guarded _ body => body.all Stmt.isPlain
  | stmt => stmt.isPlain

namespace Rendering

theorem baseCall_succeeds {method : String} (h : method = "pause" ∨ method = "resume") :
    Succeeds (baseCall method) := by
  rcases h with rfl | rfl
  · exact succeeds_ok _
  · exact succeeds_ok _

theorem stmtLines_plain (names : BodyNames) (indent : Nat) {stmt : Stmt} (h : stmt.isPlain) :
    Succeeds (stmtLines names indent stmt) := by
  cases stmt with
  | callSuper method =>
    have hbase : method = "pause" ∨ method = "resume" := by simpa [Stmt.isPlain] using h
    rw [stmtLines]
    exact succeeds_bind_pure.mpr (baseCall_succeeds hbase)
  | guarded site body => simp [Stmt.isPlain] at h
  | connectStore space exchange => simp [Stmt.isPlain] at h
  | registerVariable name initializer writable => simp [Stmt.isPlain] at h
  | dispatchTyped kind handler => simp [Stmt.isPlain] at h
  | dispatchInterval handler => simp [Stmt.isPlain] at h
  | _ =>
    unfold stmtLines
    exact succeeds_ok _

theorem bodyLines_cons (names : BodyNames) (indent : Nat) (stmt : Stmt) (rest : List Stmt) :
    Succeeds (bodyLines names indent (stmt :: rest)) ↔
      Succeeds (stmtLines names indent stmt) ∧ Succeeds (bodyLines names indent rest) := by
  rw [bodyLines, succeeds_bind (P := Succeeds (bodyLines names indent rest))]
  intro first
  exact succeeds_bind_pure

/-- Statements can be rendered together when each of them can. -/
theorem bodyLines_succeeds {names : BodyNames} {indent : Nat} {body : List Stmt}
    (h : ∀ stmt ∈ body, Succeeds (stmtLines names indent stmt)) :
    Succeeds (bodyLines names indent body) := by
  induction body with
  | nil =>
    rw [bodyLines]
    exact succeeds_ok _
  | cons stmt rest ih =>
    rw [bodyLines_cons]
    exact ⟨h stmt (by simp), ih fun s hs => h s (by simp [hs])⟩

theorem stmtLines_simple (names : BodyNames) (indent : Nat) {stmt : Stmt} (h : stmt.isSimple) :
    Succeeds (stmtLines names indent stmt) := by
  cases stmt with
  | guarded site body =>
    have hplain : ∀ s ∈ body, s.isPlain := List.all_eq_true.mp h
    rw [stmtLines, succeeds_bind_pure]
    exact bodyLines_succeeds fun s hs => stmtLines_plain names (indent + 1) (hplain s hs)
  | _ => exact stmtLines_plain names indent h

theorem bodyLines_simple (names : BodyNames) (indent : Nat) {body : List Stmt}
    (h : body.all Stmt.isSimple) : Succeeds (bodyLines names indent body) :=
  bodyLines_succeeds fun s hs => stmtLines_simple names indent (List.all_eq_true.mp h s hs)

theorem methodLines_succeeds {m : Method} (h : m.body.all Stmt.isSimple) :
    Succeeds (methodLines m) := by
  rw [methodLines, succeeds_bind_pure]
  exact bodyLines_simple _ 2 h

/-! ## Fields -/

/-- Values of the type can stand in a field. -/
def isConstructible (b : Blueprint) : Prop := b.kind ≠ .monitor ∧ b.kind ≠ .namespaceStorage

/-- The field begins with something, and where that is an instance of a type, there is one of
its name among the nested types. -/
def Begins (nested : List Blueprint) (f : Field) : Prop :=
  match f.init with
  | none => False
  | some (.construct type) => ∃ b ∈ nested, b.name = type
  | some _ => True

theorem construction?_isSome (type : String) (b : Blueprint) :
    (construction? type b.kind).isSome ↔ isConstructible b := by
  unfold isConstructible
  cases b.kind <;> simp [construction?]

/-- A field that is to hold an instance has a beginning when the first nested type of that name
is one whose values can stand in a field. -/
theorem fieldInit_construct {owner : Blueprint} {f : Field} {type : String}
    (hinit : f.init = some (.construct type)) :
    Succeeds (fieldInit owner f) ↔ ∃ b, owner.nested? type = some b ∧ isConstructible b := by
  unfold fieldInit
  simp only [hinit]
  cases hfound : owner.nested? type with
  | none => simp
  | some b =>
    have hsome := construction?_isSome type b
    cases hc : construction? type b.kind with
    | none =>
      rw [hc] at hsome
      simp_all
    | some text =>
      rw [hc] at hsome
      simp_all

theorem nested?_of_mem {owner b : Blueprint} (h : b ∈ owner.nested) :
    ∃ found ∈ owner.nested, owner.nested? b.name = some found := by
  unfold Blueprint.nested?
  cases hfound : owner.nested.find? (·.name == b.name) with
  | none =>
    have hne := List.find?_eq_none.mp hfound b h
    simp at hne
  | some found => exact ⟨found, List.mem_of_find?_eq_some hfound, rfl⟩

/-- Where values of all nested types can stand in fields, every field that begins with
something can be rendered. -/
theorem fieldInit_succeeds {owner : Blueprint} {f : Field}
    (hnested : ∀ b ∈ owner.nested, isConstructible b) (hf : Begins owner.nested f) :
    Succeeds (fieldInit owner f) := by
  cases hinit : f.init with
  | none => simp [Begins, hinit] at hf
  | some init =>
    cases init with
    | construct type =>
      simp only [Begins, hinit] at hf
      obtain ⟨b, hb, rfl⟩ := hf
      obtain ⟨found, hmem, hfound⟩ := nested?_of_mem hb
      rw [fieldInit_construct hinit]
      exact ⟨found, hfound, hnested found hmem⟩
    | _ =>
      unfold fieldInit
      simp only [hinit]
      exact succeeds_ok _

theorem initLines_iff {owner : Blueprint} {fields : List Field} :
    Succeeds (initLines owner fields) ↔ ∀ f ∈ fields, Succeeds (fieldInit owner f) := by
  rw [initLines, succeeds_mapM]
  simp only [succeeds_bind_pure]

/-! ## The types of the members of a monitor -/

/-- The type can be rendered within a monitor and its values can stand in a field. -/
def IsMember (b : Blueprint) : Prop :=
  isConstructible b ∧ ∀ monitor, Succeeds (nestedLines monitor b)

theorem ofProbe_isMember (scope : MonitorScope) (name : String) (kind : EventKind)
    (emitter : Source.Expr) : IsMember (Blueprint.ofProbe scope name kind emitter) := by
  refine ⟨⟨nofun, nofun⟩, fun monitor => ?_⟩
  have hbody : (Blueprint.ofProbe scope name kind emitter).constructor.all Stmt.isSimple := rfl
  show Succeeds (probeEventLines _ kind emitter.text)
  rw [probeEventLines, succeeds_bind_pure, eventConstructor, succeeds_bind_pure]
  exact bodyLines_simple _ 2 hbody

theorem ofPredicate_isMember (scope : MonitorScope) (event : String)
    (compiled : CompiledSpecifier) : IsMember (Blueprint.ofPredicate scope event compiled) := by
  refine ⟨⟨nofun, nofun⟩, fun monitor => ?_⟩
  show Succeeds (predicateLines _)
  unfold predicateLines
  have hinits : Succeeds (initLines (Blueprint.ofPredicate scope event compiled)
      (Blueprint.ofPredicate scope event compiled).fields) := by
    refine initLines_iff.mpr fun f hf => fieldInit_succeeds nofun ?_
    obtain ⟨threshold, -, rfl⟩ := List.mem_map.mp hf
    trivial
  apply hinits.bind
  intro inits
  have htest : Succeeds (testLines (Blueprint.ofPredicate scope event compiled)) := by
    have hbody : List.all [.returnPredicate compiled.predicate] Stmt.isSimple := rfl
    apply succeeds_bind_pure.mpr
    exact bodyLines_simple _ 2 hbody
  apply htest.bind
  intro test
  have hbody : List.all [.returnConst false] Stmt.isSimple := rfl
  apply succeeds_bind_pure.mpr
  apply succeeds_bind_pure.mpr
  exact bodyLines_simple _ 2 hbody

theorem ofChange_isMember (scope : MonitorScope) (name : String) (emitter : Source.Expr)
    (route : Route) {predicate : Option Blueprint}
    (hpredicate : ∀ p ∈ predicate, p.kind = .predicate ∧ IsMember p) :
    IsMember (Blueprint.ofChange scope name emitter route predicate) := by
  refine ⟨⟨nofun, nofun⟩, fun monitor => ?_⟩
  generalize hb : Blueprint.ofChange scope name emitter route predicate = b
  have hkind : b.kind = .changeEvent route.routingKey route.variablePath := by rw [← hb]; rfl
  have hnested : b.nested = predicate.toList := by rw [← hb]; rfl
  have hmember : ∀ p ∈ b.nested, p.kind = .predicate ∧ IsMember p := by
    intro p hp
    rw [hnested, Option.mem_toList] at hp
    exact hpredicate p hp
  have hbody : b.constructor.all Stmt.isSimple := by rw [← hb]; rfl
  have hbegins : ∀ f ∈ b.fields, Begins b.nested f := by
    rw [hnested, ← hb]
    intro f hf
    obtain ⟨p, hp, rfl⟩ := List.mem_map.mp hf
    exact ⟨p, hp, rfl⟩
  simp only [nestedLines, hkind]
  unfold changeEventLines
  have hbefore : Succeeds (b.fields.mapM fun f => do
      return "        let " ++ Naming.ident f.name ++ " = " ++ (← fieldInit b f) ++ ";") := by
    simp only [succeeds_mapM, succeeds_bind_pure]
    exact fun f hf => fieldInit_succeeds (fun p hp => (hmember p hp).2.1) (hbegins f hf)
  apply hbefore.bind
  intro before
  apply Succeeds.bind
  · rw [eventConstructor, succeeds_bind_pure]
    exact bodyLines_simple _ 2 hbody
  · intro constructor
    rw [succeeds_bind_pure, succeeds_mapM]
    intro p hp
    obtain ⟨hpk, hpm⟩ := hmember p hp
    have hlines := hpm.2 monitor
    simpa only [nestedLines, hpk] using hlines

theorem ofHandler_isMember (scope : MonitorScope) (decl : HandlerDecl) (kind : EventKind) :
    IsMember (Blueprint.ofHandler scope decl kind) := by
  unfold Blueprint.ofHandler
  split
  · exact ⟨⟨nofun, nofun⟩, fun monitor => succeeds_ok _⟩
  · exact ⟨⟨nofun, nofun⟩, fun monitor => succeeds_ok _⟩

/-! ## Monitors -/

/-- The type of a statement of a monitor can be rendered. -/
theorem isMember_of_isTypeOf {scope : MonitorScope} {item : MonitorItem} {b : Blueprint}
    (h : IsTypeOf scope item b) : IsMember b := by
  rcases h with @⟨name, emitter, specifier, span, route, names, names', predicate, -, hpredicate⟩ |
    ⟨-⟩ | ⟨-⟩
  · apply ofChange_isMember
    intro p hp
    cases specifier with
    | none =>
      cases hpredicate
      cases hp
    | some node =>
      obtain ⟨⟨compiled, more⟩, -, hpure⟩ := bind_eq_ok.mp hpredicate
      cases hpure
      cases hp
      exact ⟨rfl, ofPredicate_isMember scope name compiled⟩
  · exact ofProbe_isMember scope _ _ _
  · exact ofHandler_isMember scope _ _

/-- The field of a statement begins with something where its type is among the nested ones. -/
theorem begins_of_fieldOf? {scope : MonitorScope} {item : MonitorItem} {field : Field}
    {nested : List Blueprint} (hfield : fieldOf? scope item = some field)
    (htype : hasType item → ∃ b ∈ nested, IsTypeOf scope item b) : Begins nested field := by
  rcases item with decl | ⟨name, cron | ⟨occurrence, emitter, specifier⟩, span⟩ | decl | source
  · cases hfield
    trivial
  · cases hfield
    trivial
  · cases hfield
    obtain ⟨b, hb, hof⟩ := htype rfl
    exact ⟨b, hb, (Option.some.inj hof.typeName?).symm⟩
  · obtain ⟨kind, hkind, rfl⟩ := Option.map_eq_some_iff.mp hfield
    obtain ⟨b, hb, hof⟩ := htype rfl
    have hname := hof.typeName?
    simp only [typeName?, hkind, Option.map_some, Option.some.injEq] at hname
    exact ⟨b, hb, hname.symm⟩
  · cases hfield

section Lowered

variable {package : Option String} {index : SpaceIndex} {decl : Source.Monitor} {b : Blueprint}

/-- The fields of a monitor begin with something, but for those that it shares. -/
theorem begins_of_isLoweredFrom (h : IsLoweredFrom package index decl b) {field : Field}
    (hfield : field ∈ b.fields) (hshared : field.shared = false) : Begins b.nested field := by
  rw [h.fields] at hfield
  rcases List.mem_append.mp hfield with husing | hitem
  · obtain ⟨name, -, rfl⟩ := List.mem_map.mp husing
    cases hshared
  · obtain ⟨item, hmem, heq⟩ := List.mem_filterMap.mp hitem
    exact begins_of_fieldOf? heq (h.typed hmem)

theorem methods_simple (h : IsLoweredFrom package index decl b) :
    ∀ m ∈ b.methods, m.body.all Stmt.isSimple := by
  obtain ⟨methods, hmethods, heq⟩ := h.methods
  generalize decl.body.filterMap eventName? = events at heq
  rw [heq]
  intro m hm
  rcases List.mem_append.mp hm with hm | hm
  · rcases hmethods m hm with ⟨handler, kind, -, rfl⟩ | ⟨n, source, rfl⟩
    · rfl
    · rfl
  · simp only [List.mem_cons, List.not_mem_nil, or_false] at hm
    rcases hm with rfl | rfl | rfl
    · simp [bindMethod, Stmt.isSimple, Stmt.isPlain]
    · simp [pauseMethod, Stmt.isSimple, Stmt.isPlain]
    · simp [resumeMethod, Stmt.isSimple, Stmt.isPlain]

/-- The transitions of a monitor can be rendered when its methods can. -/
theorem transitionLines_succeeds {b : Blueprint} {name : String}
    (hmethods : ∀ m ∈ b.methods, m.body.all Stmt.isSimple) {m : Method} (hm : m ∈ b.methods)
    (hname : m.name = name) : Succeeds (transitionLines b name) := by
  unfold transitionLines Blueprint.method?
  cases hfound : b.methods.find? (·.name == name) with
  | none =>
    have hne := List.find?_eq_none.mp hfound m hm
    simp [hname] at hne
  | some found =>
    apply succeeds_bind_pure.mpr
    exact bodyLines_simple _ 2 (hmethods found (List.mem_of_find?_eq_some hfound))

theorem monitorBody_succeeds (h : IsLoweredFrom package index decl b) :
    Succeeds (monitorBody b) := by
  have hinits : Succeeds (initLines b (b.fields.filter (!·.shared))) := by
    refine initLines_iff.mpr fun f hf => fieldInit_succeeds ?_ ?_
    · intro type htype
      obtain ⟨item, -, hof⟩ := h.types htype
      exact (isMember_of_isTypeOf hof).1
    · simp only [List.mem_filter, Bool.not_eq_true'] at hf
      exact begins_of_isLoweredFrom h hf.1 hf.2
  have hbody : b.constructor.all Stmt.isSimple := by
    obtain ⟨blocks, -, heq⟩ := h.constructor
    simp [heq, Stmt.isSimple, Stmt.isPlain]
  unfold monitorBody
  apply hinits.bind
  intro inits
  apply (bodyLines_simple _ 2 hbody).bind
  intro body
  rw [succeeds_bind_pure, succeeds_mapM]
  exact fun m hm => methodLines_succeeds (methods_simple h m (List.mem_filter.mp hm).1)

/-- Every monitor that can be lowered can be rendered. -/
theorem monitorLines_succeeds (h : IsLoweredFrom package index decl b) :
    Succeeds (monitorLines b) := by
  have hmem : pauseMethod (decl.body.filterMap eventName?) ∈ b.methods ∧
      resumeMethod (decl.body.filterMap eventName?) ∈ b.methods := by
    obtain ⟨methods, -, heq⟩ := h.methods
    simp [heq]
  unfold monitorLines
  simp only [h.kind, ne_eq, not_true_eq_false, if_false]
  apply (monitorBody_succeeds h).bind
  intro body
  apply (transitionLines_succeeds (methods_simple h) hmem.1 rfl).bind
  intro pause
  apply (transitionLines_succeeds (methods_simple h) hmem.2 rfl).bind
  intro resume
  rw [succeeds_bind_pure, succeeds_mapM]
  intro type htype
  obtain ⟨item, -, hof⟩ := h.types htype
  exact (isMember_of_isTypeOf hof).2 b.name

end Lowered

/-! ## Namespaces -/

/-- The blueprint is the proxy of a child and can be rendered. -/
def IsChild (b : Blueprint) : Prop :=
  (∃ root path, b.kind = .namespaceProxy root path) ∧ Succeeds (proxyLines none b)

theorem proxyLines_iff {b : Blueprint} {root path : String} {storage : Option Blueprint}
    (hkind : b.kind = .namespaceProxy root path) :
    Succeeds (proxyLines storage b) ↔
      Succeeds (proxyBody b path storage) ∧ Succeeds (childLines b.nested) := by
  obtain ⟨name, qualifiedName, kind, doc, fields, constructor, methods, nested⟩ := b
  subst hkind
  rw [proxyLines, succeeds_bind]
  intro body
  exact succeeds_bind_pure

theorem childLines_succeeds {bs : List Blueprint} (h : ∀ b ∈ bs, IsChild b ∨
    b.kind = .namespaceStorage) : Succeeds (childLines bs) := by
  induction bs with
  | nil =>
    rw [childLines]
    exact succeeds_ok _
  | cons b rest ih =>
    have hrest : Succeeds (childLines rest) := ih fun c hc => h c (by simp [hc])
    rw [childLines]
    rcases h b (by simp) with ⟨⟨root, path, hkind⟩, lines, hlines⟩ | hkind
    · simp only [hkind, hlines, Except.map]
      exact (succeeds_ok _).bind fun first => succeeds_bind_pure.mpr hrest
    · simp only [hkind]
      exact (succeeds_ok _).bind fun first => succeeds_bind_pure.mpr hrest

/-- The methods of a proxy can be rendered. -/
theorem proxy_methods_simple (root path name qualifiedName : String)
    (vars : List Source.Variable) (children : List (String × Blueprint)) :
    ∀ m ∈ (Blueprint.proxy root path name qualifiedName vars children).methods,
      m.body.all Stmt.isSimple := by
  intro m hm
  rcases List.mem_append.mp hm with hvar | hchild
  · obtain ⟨v, -, hv⟩ := List.mem_flatMap.mp hvar
    unfold accessors at hv
    split at hv
    · simp only [List.mem_cons, List.not_mem_nil, or_false] at hv
      rcases hv with rfl | rfl
      · rfl
      · rfl
    · rw [List.mem_singleton.mp hv]
      rfl
  · obtain ⟨⟨child, b⟩, -, rfl⟩ := List.mem_map.mp hchild
    rfl

/-- The body of a proxy can be rendered when its beginning and its fields can. -/
theorem proxyBody_iff {b : Blueprint} {path : String} {storage : Option Blueprint}
    (hbegin : Succeeds (proxyConstructor b path storage))
    (hmethods : ∀ m ∈ b.methods, m.body.all Stmt.isSimple) :
    Succeeds (proxyBody b path storage) ↔ ∀ f ∈ b.fields, Succeeds (fieldInit b f) := by
  have hm : Succeeds (b.methods.mapM methodLines) :=
    succeeds_mapM.mpr fun m hmem => methodLines_succeeds (hmethods m hmem)
  have hinits : Succeeds (proxyBody b path storage) ↔
      Succeeds (proxyConstructor b path storage) ∧ Succeeds (initLines b b.fields) ∧
        Succeeds (b.methods.mapM methodLines) := by
    rw [proxyBody, succeeds_bind]
    intro constructor
    rw [succeeds_bind]
    intro inits
    exact succeeds_bind_pure
  rw [hinits, initLines_iff]
  exact ⟨fun h => h.2.1, fun h => ⟨hbegin, h, hm⟩⟩

/-- The proxy of a node below the root can be rendered when those of its children can. -/
theorem proxy_isChild (root path name qualifiedName : String) (vars : List Source.Variable)
    {children : List (String × Blueprint)} (h : ∀ c ∈ children, IsChild c.2) :
    IsChild (Blueprint.proxy root path name qualifiedName vars children) := by
  refine ⟨⟨root, path, rfl⟩, (proxyLines_iff rfl).mpr ⟨?_, ?_⟩⟩
  · have hbegin : Succeeds (proxyConstructor
        (Blueprint.proxy root path name qualifiedName vars children) path none) := succeeds_ok _
    rw [proxyBody_iff hbegin (proxy_methods_simple _ _ _ _ _ _)]
    intro f hf
    obtain ⟨c, hc, rfl⟩ := List.mem_map.mp hf
    apply fieldInit_succeeds
    · intro b hb
      obtain ⟨d, hd, rfl⟩ := List.mem_map.mp hb
      obtain ⟨⟨r, p, hkind⟩, -⟩ := h d hd
      exact ⟨by simp [hkind], by simp [hkind]⟩
    · exact ⟨c.2, List.mem_map_of_mem hc, rfl⟩
  · apply childLines_succeeds
    intro b hb
    obtain ⟨c, hc, rfl⟩ := List.mem_map.mp hb
    exact .inl (h c hc)

mutual

theorem childProxies_isChild (root path type qualifiedName : String) :
    ∀ item : SpaceItem, ∀ c ∈ childProxies root path type qualifiedName item, IsChild c.2
  | .variable _ => by simp [childProxies]
  | .space name body _ => by
    intro c hc
    rw [childProxies, List.mem_singleton] at hc
    rw [hc]
    exact proxy_isChild _ _ _ _ _ (allProxies_isChild _ _ _ _ body)

theorem allProxies_isChild (root path type qualifiedName : String) :
    ∀ items : List SpaceItem, ∀ c ∈ allProxies root path type qualifiedName items, IsChild c.2
  | [] => by simp [allProxies]
  | item :: rest => by
    intro c hc
    rw [allProxies] at hc
    rcases List.mem_append.mp hc with hfirst | hrest
    · exact childProxies_isChild _ _ _ _ item c hfirst
    · exact allProxies_isChild _ _ _ _ rest c hrest

end

/-- Only the children of a node have proxies, and the type of a child is named after the node
and the child. -/
theorem child_of_mem_allProxies {root path type qualifiedName : String} {items : List SpaceItem}
    {name : String} {b : Blueprint} (h : (name, b) ∈ allProxies root path type qualifiedName items) :
    b.name = type ++ Naming.pascal name ∧ ∃ body span, .space name body span ∈ items := by
  induction items with
  | nil => simp [allProxies] at h
  | cons item rest ih =>
    rw [allProxies, List.mem_append] at h
    rcases h with hfirst | hrest
    · rcases item with decl | ⟨child, body, span⟩
      · simp [childProxies] at hfirst
      · rw [childProxies, List.mem_singleton] at hfirst
        cases hfirst
        exact ⟨rfl, body, span, List.mem_cons_self⟩
    · obtain ⟨hname, body, span, hmem⟩ := ih hrest
      exact ⟨hname, body, span, List.mem_cons_of_mem _ hmem⟩

/-- Every child of a node has a proxy. -/
theorem mem_allProxies_of_child {root path type qualifiedName : String} {items : List SpaceItem}
    {name : String} {body : List SpaceItem} {span : Option Source.Span}
    (h : .space name body span ∈ items) :
    ∃ b, (name, b) ∈ allProxies root path type qualifiedName items := by
  induction items with
  | nil => cases h
  | cons item rest ih =>
    simp only [allProxies, List.mem_append]
    rcases List.mem_cons.mp h with hfirst | hrest
    · rw [← hfirst, childProxies]
      exact ⟨_, .inl (List.mem_singleton.mpr rfl)⟩
    · obtain ⟨b, hb⟩ := ih hrest
      exact ⟨b, .inr hb⟩

/-- No child of the root has the type name of the storage. -/
def NoStorageChild (decl : Source.Namespace) : Prop :=
  ∀ name body span, .space name body span ∈ decl.body → Naming.pascal name ≠ "Storage"

/-- The storage of a namespace can be rendered. -/
theorem storageLines_succeeds {b : Blueprint} {path : String} {body : List SpaceItem}
    (h : b.constructor = registrations path body) : Succeeds (storageLines b) := by
  rw [storageLines, succeeds_bind_pure, succeeds_mapM, h]
  intro stmt hstmt
  obtain ⟨names, inner, v, -, -, rfl⟩ := mem_registrations_iff.mp hstmt
  exact succeeds_ok _

/-- The field of a child of a root finds the proxy of the child unless the child has the type
name of the storage. -/
theorem fieldInit_child {package : Option String} {decl : Source.Namespace} {name : String}
    {b : Blueprint} (h : (name, b) ∈ allProxies decl.name decl.name (Naming.pascal decl.name)
      (Source.qualify package (Naming.pascal decl.name)) decl.body) :
    Succeeds (fieldInit (Blueprint.ofSpace package decl) (childField name b.name)) ↔
      Naming.pascal name ≠ "Storage" := by
  obtain ⟨hname, -⟩ := child_of_mem_allProxies h
  rw [fieldInit_construct rfl, hname]
  by_cases hs : Naming.pascal name = "Storage"
  · -- The storage stands before the children, and no field can hold one.
    simp [Blueprint.nested?, Blueprint.ofSpace, hs, isConstructible]
  · have hskip : (Naming.pascal decl.name ++ "Storage" ==
        Naming.pascal decl.name ++ Naming.pascal name) = false := by
      rw [beq_eq_false_iff_ne, ne_eq, String.append_right_inj]
      exact fun heq => hs heq.symm
    have hproxy : b ∈ (Blueprint.proxy decl.name decl.name (Naming.pascal decl.name)
        (Source.qualify package (Naming.pascal decl.name)) (SpaceItem.vars decl.body)
        (allProxies decl.name decl.name (Naming.pascal decl.name)
          (Source.qualify package (Naming.pascal decl.name)) decl.body)).nested :=
      List.mem_map_of_mem h
    obtain ⟨found, hmem, hfound⟩ := nested?_of_mem hproxy
    obtain ⟨c, hc, rfl⟩ := List.mem_map.mp hmem
    obtain ⟨⟨root, path, hkind⟩, -⟩ := allProxies_isChild _ _ _ _ decl.body c hc
    refine iff_of_true ⟨c.2, ?_, ?_⟩ hs
    · rw [hname] at hfound
      simpa [Blueprint.nested?, Blueprint.ofSpace, hskip] using hfound
    · exact ⟨by simp [hkind], by simp [hkind]⟩

/-- A root namespace can be rendered when none of its children has the type name of its
storage. -/
theorem spaceLines_iff (package : Option String) (decl : Source.Namespace) :
    Succeeds (spaceLines (Blueprint.ofSpace package decl)) ↔ NoStorageChild decl := by
  generalize hb : Blueprint.ofSpace package decl = b
  generalize hchildren : allProxies decl.name decl.name (Naming.pascal decl.name)
    (Source.qualify package (Naming.pascal decl.name)) decl.body = children
  have hkind : b.kind = .namespaceProxy decl.name decl.name := by rw [← hb]; rfl
  obtain ⟨storage, hstorage, hregister, hnested⟩ : ∃ storage : Blueprint,
      storage.kind = .namespaceStorage ∧ storage.constructor = registrations decl.name decl.body ∧
        b.nested = storage :: children.map (·.2) := by
    rw [← hb, ← hchildren]
    exact ⟨_, rfl, rfl, rfl⟩
  have hmethods : ∀ m ∈ b.methods, m.body.all Stmt.isSimple := by
    rw [← hb]
    exact proxy_methods_simple decl.name decl.name (Naming.pascal decl.name)
      (Source.qualify package (Naming.pascal decl.name)) _ _
  have hbegin : Succeeds (proxyConstructor b decl.name (some storage)) := by
    rw [← hb]
    exact succeeds_ok _
  have hfields : b.fields = children.map fun c => childField c.1 c.2.name := by
    rw [← hb, ← hchildren]
    rfl
  have hdeep : Succeeds (childLines b.nested) := by
    apply childLines_succeeds
    rw [hnested]
    intro nested hmem
    rcases List.mem_cons.mp hmem with rfl | hchild
    · exact .inr hstorage
    · obtain ⟨c, hc, rfl⟩ := List.mem_map.mp hchild
      exact .inl (allProxies_isChild _ _ _ _ decl.body c (hchildren ▸ hc))
  have hlines : Succeeds (spaceLines b) ↔ ∀ f ∈ b.fields, Succeeds (fieldInit b f) := by
    have hfirst : b.nested.find? (·.kind == .namespaceStorage) = some storage := by
      simp [hnested, hstorage]
    unfold spaceLines
    simp only [hkind, hfirst]
    rw [succeeds_bind (fun _ => succeeds_bind_pure), proxyLines_iff hkind,
      proxyBody_iff hbegin hmethods]
    exact ⟨fun h => h.2.1, fun h => ⟨storageLines_succeeds hregister, h, hdeep⟩⟩
  rw [hlines, hfields]
  constructor
  · intro h name body span hmem
    obtain ⟨c, hc⟩ := mem_allProxies_of_child hmem
    have hinit := h (childField name c.name) (List.mem_map.mpr ⟨(name, c), hchildren ▸ hc, rfl⟩)
    rw [← hb] at hinit
    exact (fieldInit_child hc).mp hinit
  · intro h f hf
    obtain ⟨⟨name, c⟩, hc, rfl⟩ := List.mem_map.mp hf
    rw [← hchildren] at hc
    obtain ⟨-, body, span, hmem⟩ := child_of_mem_allProxies hc
    rw [← hb]
    exact (fieldInit_child hc).mpr (h name body span hmem)

/-! ## Modules -/

/-- The path of the module of a type at the top. -/
def modulePath (b : Blueprint) : String :=
  (if isMonitor b then "monitors/" else "namespaces/") ++ (Naming.snake b.name ++ ".rs")

theorem modulePath_inj {b c : Blueprint} (h : modulePath b = modulePath c) :
    isMonitor b = isMonitor c ∧ Naming.snake b.name = Naming.snake c.name := by
  have hchars := congrArg String.toList h
  unfold modulePath at h hchars
  cases hb : isMonitor b <;> cases hc : isMonitor c <;> simp [hb, hc] at h hchars ⊢
  · exact h
  · exact h

/-- Where neither two monitors nor two root namespaces share a file name, no two modules share a
path. -/
theorem modulePath_nodup {bs : List Blueprint}
    (hmonitors : ((bs.filter isMonitor).map fun b => Naming.snake b.name).Nodup)
    (hspaces : ((bs.filter (!isMonitor ·)).map fun b => Naming.snake b.name).Nodup) :
    (bs.map modulePath).Nodup := by
  induction bs with
  | nil => exact List.nodup_nil
  | cons b rest ih =>
    rw [List.map_cons, List.nodup_cons]
    cases hb : isMonitor b with
    | true =>
      simp only [List.filter_cons, hb, if_true, List.map_cons, List.nodup_cons, Bool.not_true,
        Bool.false_eq_true, if_false] at hmonitors hspaces
      refine ⟨fun hmem => hmonitors.1 ?_, ih hmonitors.2 hspaces⟩
      obtain ⟨c, hc, hpath⟩ := List.mem_map.mp hmem
      obtain ⟨hkind, hname⟩ := modulePath_inj hpath
      exact List.mem_map.mpr ⟨c, List.mem_filter.mpr ⟨hc, hkind.trans hb⟩, hname⟩
    | false =>
      simp only [List.filter_cons, hb, if_true, List.map_cons, List.nodup_cons, Bool.not_false,
        Bool.false_eq_true, if_false] at hmonitors hspaces
      refine ⟨fun hmem => hspaces.1 ?_, ih hmonitors hspaces.2⟩
      obtain ⟨c, hc, hpath⟩ := List.mem_map.mp hmem
      obtain ⟨hkind, hname⟩ := modulePath_inj hpath
      exact List.mem_map.mpr ⟨c, List.mem_filter.mpr ⟨hc, by simp [hkind, hb]⟩, hname⟩

theorem path_of_moduleOf {b : Blueprint} {path : String} {lines : List String}
    (h : moduleOf b = .ok (path, lines)) : path = modulePath b := by
  unfold moduleOf at h
  split at h
  · rename_i hkind
    obtain ⟨_, -, hok⟩ := bind_eq_ok.mp h
    cases hok
    simp [modulePath, isMonitor, hkind]
  · rename_i hkind
    obtain ⟨_, -, hok⟩ := bind_eq_ok.mp h
    cases hok
    simp [modulePath, isMonitor, hkind]
  · cases h

theorem modulesFrom_cons {taken : List String} {b : Blueprint} {rest : List Blueprint}
    (hfree : modulePath b ∉ taken) : Succeeds (modulesFrom taken (b :: rest)) ↔
      Succeeds (moduleOf b) ∧ Succeeds (modulesFrom (modulePath b :: taken) rest) := by
  rw [modulesFrom]
  cases hb : moduleOf b with
  | error flaw => simp [bind, Except.bind]
  | ok module =>
    obtain ⟨path, lines⟩ := module
    obtain rfl := path_of_moduleOf hb
    simp only [succeeds_ok, true_and]
    show Succeeds (if taken.contains (modulePath b) then _ else _) ↔ _
    rw [if_neg (by simpa using hfree)]
    exact succeeds_bind_pure

/-- Where no two modules share a path, they can be rendered together when each can. -/
theorem modulesFrom_iff {taken : List String} {bs : List Blueprint}
    (hdistinct : (bs.map modulePath).Nodup) (hfree : ∀ b ∈ bs, modulePath b ∉ taken) :
    Succeeds (modulesFrom taken bs) ↔ ∀ b ∈ bs, Succeeds (moduleOf b) := by
  induction bs generalizing taken with
  | nil => simp [modulesFrom]
  | cons b rest ih =>
    rw [List.map_cons, List.nodup_cons] at hdistinct
    have hrest : ∀ c ∈ rest, modulePath c ∉ modulePath b :: taken := by
      intro c hc hmem
      rcases List.mem_cons.mp hmem with heq | hold
      · exact hdistinct.1 (heq ▸ List.mem_map_of_mem hc)
      · exact hfree c (by simp [hc]) hold
    rw [modulesFrom_cons (hfree b (by simp)), ih hdistinct.2 hrest]
    simp

theorem moduleOf_monitor {package : Option String} {index : SpaceIndex} {decl : Source.Monitor}
    {b : Blueprint} (h : Blueprint.ofMonitor package index decl = .ok b) :
    Succeeds (moduleOf b) := by
  have hlowered := isLoweredFrom_of_ofMonitor h
  unfold moduleOf
  simp only [hlowered.kind, succeeds_bind_pure]
  exact monitorLines_succeeds hlowered

theorem moduleOf_space (package : Option String) (decl : Source.Namespace) :
    Succeeds (moduleOf (Blueprint.ofSpace package decl)) ↔ NoStorageChild decl := by
  rw [← spaceLines_iff package decl]
  exact succeeds_bind_pure

end Rendering

/-! ## Accepted declarations -/

open Rendering in
/-- The types that are accepted from some units can be rendered together, provided that neither
two monitors nor two root namespaces share a file name, exactly when no accepted root namespace
has a child whose type name is that of the storage of the root. -/
theorem accepted_types_render_unless_a_child_is_named_like_the_storage
    (units : List SourceUnit) (manifest : Option Manifest)
    (hmonitors : (((Report.ofUnits units true).blueprints.filter isMonitor).map
      fun b => Naming.snake b.name).Nodup)
    (hspaces : (((Report.ofUnits units true).blueprints.filter (!isMonitor ·)).map
      fun b => Naming.snake b.name).Nodup) :
    (∃ generated, files (Report.ofUnits units true).blueprints manifest = .ok generated) ↔
      ∀ unit ∈ units, ∀ decl, .space decl ∈ unit.declarations →
        Members.check (SpaceIndex.ofUnits units) (.space decl) = .ok () →
          ∀ name body span, .space name body span ∈ decl.body →
            Naming.pascal name ≠ "Storage" := by
  have hfiles : Succeeds (files (Report.ofUnits units true).blueprints manifest) ↔
      ∀ b ∈ (Report.ofUnits units true).blueprints, Succeeds (moduleOf b) := by
    rw [files, succeeds_bind_pure]
    exact modulesFrom_iff (modulePath_nodup hmonitors hspaces) (by simp)
  refine hfiles.trans ⟨?_, ?_⟩
  · intro h unit hunit decl hdecl hcheck
    refine (moduleOf_space unit.package decl).mp (h _ (mem_blueprints.mpr
      ⟨unit, hunit, .space decl, hdecl, ?_⟩))
    exact outcome_eq_ok.mpr ⟨hcheck, rfl⟩
  · intro h b hb
    obtain ⟨unit, hunit, decl, hdecl, hok⟩ := mem_blueprints.mp hb
    obtain ⟨hcheck, hlow⟩ := outcome_eq_ok.mp hok
    rcases decl with decl | decl
    · exact moduleOf_monitor hlow
    · cases hlow
      exact (moduleOf_space unit.package decl).mpr (h unit hunit decl hdecl hcheck)

/-- A monitor and the two namespaces beside it, one of which has a child. -/
def loadUnits : List SourceUnit :=
  [⟨some "demo", [
    .space ⟨"cpu", [
      .variable ⟨"load", none, .literal (.number "0"), true⟩,
      .space "limits" [.variable ⟨"max", none, .literal (.number "90"), true⟩] none], none⟩,
    .space ⟨"disk", [], none⟩,
    .monitor ⟨"CpuWatch", ["cpu"], [
      .event ⟨"high", .typed .change (.member (.root "cpu" none) "load" none)
        (some (.leaf .above (.literal (.number "80")) false)), none⟩,
      .handler ⟨"onHigh", "e", "ChangeEvent", "Ok(())", none, none⟩], none⟩]⟩]

open Rendering in
theorem load_units_render :
    (((Report.ofUnits loadUnits true).blueprints.filter isMonitor).map
        fun b => Naming.snake b.name) = ["cpu_watch"] ∧
      (((Report.ofUnits loadUnits true).blueprints.filter (!isMonitor ·)).map
        fun b => Naming.snake b.name) = ["cpu", "disk"] ∧
      ∃ generated, files (Report.ofUnits loadUnits true).blueprints none = .ok generated := by
  have hmonitors : (((Report.ofUnits loadUnits true).blueprints.filter isMonitor).map
      fun b => Naming.snake b.name) = ["cpu_watch"] := rfl
  have hspaces : (((Report.ofUnits loadUnits true).blueprints.filter (!isMonitor ·)).map
      fun b => Naming.snake b.name) = ["cpu", "disk"] := rfl
  refine ⟨hmonitors, hspaces, ?_⟩
  apply (accepted_types_render_unless_a_child_is_named_like_the_storage loadUnits none
    (by rw [hmonitors]; decide) (by rw [hspaces]; decide)).mpr
  intro unit hunit decl hdecl _ name body span hchild
  rw [loadUnits, List.mem_singleton] at hunit
  subst hunit
  simp only [List.mem_cons, Declaration.space.injEq, reduceCtorEq, List.not_mem_nil,
    or_false] at hdecl
  rcases hdecl with rfl | rfl
  · simp only [List.mem_cons, reduceCtorEq, SpaceItem.space.injEq, List.not_mem_nil, or_false,
      false_or] at hchild
    rw [hchild.1]
    decide
  · cases hchild

open Rendering in
/-- A root with a child named `storage` is accepted, and its module cannot be rendered: the
field of the child finds the storage of the root instead of the proxy of the child. -/
theorem a_child_named_storage_is_accepted_and_not_rendered :
    (Report.ofUnits [⟨some "demo", [.space ⟨"cpu", [.space "storage" [] none], none⟩]⟩]
        true).accepted = ["demo.cpu"] ∧
      (Report.ofUnits [⟨some "demo", [.space ⟨"cpu", [.space "storage" [] none], none⟩]⟩]
        true).blueprints.map modulePath = ["namespaces/cpu.rs"] ∧
      files (Report.ofUnits [⟨some "demo", [.space ⟨"cpu", [.space "storage" [] none], none⟩]⟩]
        true).blueprints none = .error (.noInitializer "storage" "Cpu") :=
  ⟨rfl, rfl, rfl⟩

end Watchtower
