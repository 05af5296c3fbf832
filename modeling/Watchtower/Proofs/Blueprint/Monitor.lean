-- The blueprints of monitors: which fields, types and methods the statements of a monitor are
-- lowered to, and what the checks say of their names.
import Mathlib.Data.List.Forall2
import Watchtower.Blueprint.Monitor
import Watchtower.Members
import Watchtower.Proofs.Outcome
import Watchtower.Proofs.Source.Declared
import Watchtower.Proofs.Tables

namespace Watchtower

open Source (MonitorItem EventDecl HandlerDecl)

/-! ## Related lists -/

theorem exists_of_forall₂_right {α β : Type} {R : α → β → Prop} {as : List α} {bs : List β}
    (h : List.Forall₂ R as bs) {b : β} (hb : b ∈ bs) : ∃ a ∈ as, R a b := by
  induction h with
  | nil => cases hb
  | cons hfirst hrest ih =>
    rcases List.mem_cons.mp hb with rfl | hb
    · exact ⟨_, List.mem_cons_self, hfirst⟩
    · obtain ⟨a, ha, hR⟩ := ih hb
      exact ⟨a, List.mem_cons_of_mem _ ha, hR⟩

/-- Of related lists the first matches are related, where related items match alike. -/
theorem find?_of_forall₂ {α β : Type} {R : α → β → Prop} {p : α → Bool} {q : β → Bool}
    {as : List α} {bs : List β} (h : List.Forall₂ R as bs) (hpq : ∀ a b, R a b → p a = q b) {b : β}
    (hb : bs.find? q = some b) : ∃ a, as.find? p = some a ∧ R a b := by
  induction h with
  | nil => cases hb
  | @cons a first as bs hfirst hrest ih =>
    rw [List.find?_cons] at hb ⊢
    rw [hpq a first hfirst]
    cases hq : q first with
    | true =>
      rw [hq] at hb
      cases hb
      exact ⟨a, rfl, hfirst⟩
    | false =>
      rw [hq] at hb
      exact ih hb

/-! ## Statements -/

/-- The field that a statement is lowered to. -/
def fieldOf? (scope : MonitorScope) : MonitorItem → Option Field
  | .variable decl =>
    some { name := decl.name, type := .value decl.type, constant := !decl.writable
           init := some (.expr decl.initializer) }
  | .event ⟨name, .periodic cron, _⟩ =>
    some { name, type := .periodic, init := some (.cron cron) }
  | .event ⟨name, .typed .., _⟩ => some (eventField name (scope.nestedName name "Event"))
  | .handler decl =>
    (EventKind.ofTypeName? decl.paramType).map fun kind =>
      { name := decl.name, type := .handler (Blueprint.ofHandler scope decl kind).name
        init := some (.construct (Blueprint.ofHandler scope decl kind).name) }
  | .code _ => none

/-- The name of an event. -/
def eventName? : MonitorItem → Option String
  | .event decl => some decl.name
  | _ => none

/-- The statement is lowered to a type of its own. -/
def hasType : MonitorItem → Bool
  | .event ⟨_, .typed .., _⟩ | .handler _ => true
  | _ => false

/-- The blueprint is the type of a statement. -/
inductive IsTypeOf (scope : MonitorScope) : MonitorItem → Blueprint → Prop where
  | change {name : String} {emitter : Source.Expr} {specifier : Option Source.Specifier}
      {span : Option Source.Span} {route : Route} {names names' : NameSupply}
      {predicate : Option Blueprint}
      (hroute : Route.ofEmitter? scope.qualifiedName name emitter scope.index = some route)
      (hpredicate : predicateType scope names name specifier = .ok (predicate, names')) :
      IsTypeOf scope (.event ⟨name, .typed .change emitter specifier, span⟩)
        (Blueprint.ofChange scope name emitter route predicate)
  | probe {name : String} {occurrence : Source.Occurrence} {emitter : Source.Expr}
      {span : Option Source.Span} (hoccurrence : occurrence ≠ .change) :
      IsTypeOf scope (.event ⟨name, .typed occurrence emitter none, span⟩)
        (Blueprint.ofProbe scope name occurrence.kind emitter)
  | handler {decl : HandlerDecl} {kind : EventKind}
      (hkind : EventKind.ofTypeName? decl.paramType = some kind) :
      IsTypeOf scope (.handler decl) (Blueprint.ofHandler scope decl kind)

/-- The name of the type that a statement is lowered to. -/
def typeName? (scope : MonitorScope) : MonitorItem → Option String
  | .event ⟨name, .typed .., _⟩ => some (scope.nestedName name "Event")
  | .handler decl =>
    (EventKind.ofTypeName? decl.paramType).map fun kind => (Blueprint.ofHandler scope decl kind).name
  | _ => none

theorem hasType_of_typeName? {scope : MonitorScope} {item : MonitorItem} {type : String}
    (h : typeName? scope item = some type) : hasType item = true := by
  rcases item with decl | ⟨name, emitter | ⟨occurrence, emitter, specifier⟩, span⟩ | decl | source
  · cases h
  · cases h
  · rfl
  · rfl
  · cases h

theorem IsTypeOf.typeName? {scope : MonitorScope} {item : MonitorItem} {b : Blueprint}
    (h : IsTypeOf scope item b) : typeName? scope item = some b.name := by
  cases h with
  | change hroute hpredicate => rfl
  | probe hoccurrence => rfl
  | handler hkind => simp [Watchtower.typeName?, hkind]

theorem IsTypeOf.hasType {scope : MonitorScope} {item : MonitorItem} {b : Blueprint}
    (h : IsTypeOf scope item b) : hasType item = true :=
  hasType_of_typeName? h.typeName?

/-- The method is the body of a handler or a code block. -/
def IsMethodOf (items : List MonitorItem) (m : Method) : Prop :=
  (∃ decl kind, .handler decl ∈ items ∧ m = handlerMethod decl kind) ∨
    ∃ n source, m = { name := NameSupply.numbered "code" n, propagates := true
                      body := [.userCode (.block n) source] }

/-- What statements add to what has been lowered before them. -/
structure Lowers (scope : MonitorScope) (items : List MonitorItem) (before after : MonitorParts) :
    Prop where
  fields : after.fields = before.fields ++ items.filterMap (fieldOf? scope)
  events : after.events = before.events ++ items.filterMap eventName?
  nested : ∃ types, after.nested = before.nested ++ types ∧
    List.Forall₂ (IsTypeOf scope) (items.filter hasType) types
  methods : ∃ methods, after.methods = before.methods ++ methods ∧ ∀ m ∈ methods, IsMethodOf items m
  blocks : ∃ blocks, after.blocks = before.blocks ++ blocks ∧
    ∀ name ∈ blocks, ∃ n, name = NameSupply.numbered "code" n

theorem Lowers.nil (scope : MonitorScope) (parts : MonitorParts) : Lowers scope [] parts parts :=
  ⟨by simp, by simp, ⟨[], by simp⟩, ⟨[], by simp⟩, ⟨[], by simp⟩⟩

theorem IsMethodOf.mono {items more : List MonitorItem} {m : Method} (h : IsMethodOf items m)
    (hsub : ∀ item ∈ items, item ∈ more) : IsMethodOf more m := by
  rcases h with ⟨decl, kind, hmem, rfl⟩ | hcode
  · exact .inl ⟨decl, kind, hsub _ hmem, rfl⟩
  · exact .inr hcode

theorem Lowers.trans {scope : MonitorScope} {first rest : List MonitorItem}
    {before between after : MonitorParts} (h : Lowers scope first before between)
    (h' : Lowers scope rest between after) : Lowers scope (first ++ rest) before after := by
  obtain ⟨types, hnested, htypes⟩ := h.nested
  obtain ⟨types', hnested', htypes'⟩ := h'.nested
  obtain ⟨methods, hmethods, hm⟩ := h.methods
  obtain ⟨methods', hmethods', hm'⟩ := h'.methods
  obtain ⟨blocks, hblocks, hb⟩ := h.blocks
  obtain ⟨blocks', hblocks', hb'⟩ := h'.blocks
  refine ⟨?_, ?_, ⟨types ++ types', ?_, ?_⟩, ⟨methods ++ methods', ?_, ?_⟩,
    ⟨blocks ++ blocks', ?_, ?_⟩⟩
  · rw [h'.fields, h.fields, List.filterMap_append, List.append_assoc]
  · rw [h'.events, h.events, List.filterMap_append, List.append_assoc]
  · rw [hnested', hnested, List.append_assoc]
  · rw [List.filter_append]
    exact List.rel_append htypes htypes'
  · rw [hmethods', hmethods, List.append_assoc]
  · intro m hmem
    rcases List.mem_append.mp hmem with hmem | hmem
    · exact (hm m hmem).mono fun item hitem => List.mem_append_left _ hitem
    · exact (hm' m hmem).mono fun item hitem => List.mem_append_right _ hitem
  · rw [hblocks', hblocks, List.append_assoc]
  · intro name hname
    rcases List.mem_append.mp hname with hname | hname
    · exact hb name hname
    · exact hb' name hname

/-- An event is lowered to its field, and to its type unless it is periodic. -/
theorem lowerEvent_eq {scope : MonitorScope} {names names' : NameSupply} {decl : EventDecl}
    {field : Field} {type : Option Blueprint}
    (h : lowerEvent scope names decl = .ok (field, type, names')) :
    fieldOf? scope (.event decl) = some field ∧ (∀ b ∈ type, IsTypeOf scope (.event decl) b) ∧
      (hasType (.event decl) → ∃ b, type = some b) := by
  obtain ⟨name, emitter, span⟩ := decl
  unfold lowerEvent at h
  split at h
  · rename_i cron hemitter
    cases h
    simp only at hemitter
    subst hemitter
    exact ⟨rfl, nofun, nofun⟩
  · rename_i emitter specifier hemitter
    simp only at hemitter
    subst hemitter
    split at h
    · cases h
    · rename_i route hroute
      obtain ⟨⟨predicate, rest⟩, hpredicate, hok⟩ := bind_eq_ok.mp h
      cases hok
      refine ⟨rfl, ?_, fun _ => ⟨_, rfl⟩⟩
      rintro b ⟨⟩
      exact .change hroute hpredicate
  · rename_i occurrence emitter hchange hemitter
    simp only at hemitter
    subst hemitter
    cases h
    refine ⟨rfl, ?_, fun _ => ⟨_, rfl⟩⟩
    rintro b ⟨⟩
    exact .probe hchange
  · cases h

theorem add_lowers {scope : MonitorScope} {before after : MonitorParts} {item : MonitorItem}
    (h : before.add scope item = .ok after) : Lowers scope [item] before after := by
  rcases item with decl | decl | decl | source
  · cases h
    exact ⟨rfl, by simp [eventName?], ⟨[], by simp [hasType]⟩, ⟨[], by simp⟩, ⟨[], by simp⟩⟩
  · obtain ⟨⟨field, type, names⟩, hlow, hok⟩ := bind_eq_ok.mp h
    cases hok
    obtain ⟨hfield, htype, hhas⟩ := lowerEvent_eq hlow
    refine ⟨by simp [hfield], by simp [eventName?], ⟨type.toList, rfl, ?_⟩, ⟨[], by simp⟩,
      ⟨[], by simp⟩⟩
    cases type with
    | none =>
      have hnot : hasType (.event decl) = false := by
        by_contra hne
        obtain ⟨b, heq⟩ := hhas (by simpa using hne)
        cases heq
      simp [hnot]
    | some b =>
      have hof := htype b rfl
      simp [hof.hasType, hof]
  · simp only [MonitorParts.add] at h
    split at h
    · cases h
    · rename_i kind hkind
      cases h
      refine ⟨by simp [fieldOf?, hkind], by simp [eventName?],
        ⟨[_], rfl, .cons (.handler hkind) .nil⟩, ⟨[_], rfl, ?_⟩, ⟨[], by simp⟩⟩
      intro m hm
      rw [List.mem_singleton.mp hm]
      exact .inl ⟨decl, kind, List.mem_singleton.mpr rfl, rfl⟩
  · cases h
    refine ⟨by simp [fieldOf?], by simp [eventName?], ⟨[], by simp [hasType]⟩, ⟨[_], rfl, ?_⟩,
      ⟨[_], rfl, ?_⟩⟩
    · intro m hm
      rw [List.mem_singleton.mp hm]
      exact .inr ⟨_, source, rfl⟩
    · intro name hname
      rw [List.mem_singleton.mp hname]
      exact ⟨_, rfl⟩

/-- Statements are lowered one after the other. -/
theorem foldlM_add_lowers {scope : MonitorScope} {items : List MonitorItem}
    {before after : MonitorParts}
    (h : items.foldlM (MonitorParts.add scope) before = .ok after) :
    Lowers scope items before after := by
  induction items generalizing before with
  | nil =>
    cases h
    exact .nil scope _
  | cons item rest ih =>
    rw [List.foldlM_cons] at h
    obtain ⟨between, hfirst, hrest⟩ := bind_eq_ok.mp h
    exact (add_lowers hfirst).trans (ih hrest)

/-! ## Monitors -/

/-- What the members of a monitor of a package know of it. -/
def monitorScope (package : Option String) (index : SpaceIndex) (decl : Source.Monitor) :
    MonitorScope :=
  ⟨Source.qualify package decl.name, Naming.pascal decl.name, index⟩

/-- The field of a namespace that a monitor uses. -/
def usingField (name : String) : Field := { name, type := .proxy name, shared := true }

/-- The method that binds namespaces. -/
def bindMethod (usings : List String) : Method :=
  { name := initializeMethod, propagates := true
    body := usings.map fun name => .constructProxy name name }

/-- A blueprint and the monitor that it was lowered from. -/
structure IsLoweredFrom (package : Option String) (index : SpaceIndex) (decl : Source.Monitor)
    (b : Blueprint) : Prop where
  kind : b.kind = .monitor
  qualifiedName : b.qualifiedName = Source.qualify package decl.name
  fields : b.fields = decl.usings.map usingField ++
    decl.body.filterMap (fieldOf? (monitorScope package index decl))
  nested : List.Forall₂ (IsTypeOf (monitorScope package index decl)) (decl.body.filter hasType)
    b.nested
  methods : ∃ methods, (∀ m ∈ methods, IsMethodOf decl.body m) ∧
    b.methods = methods ++ [bindMethod decl.usings, pauseMethod (decl.body.filterMap eventName?),
      resumeMethod (decl.body.filterMap eventName?)]
  constructor : ∃ blocks : List String, (∀ name ∈ blocks, ∃ n, name = NameSupply.numbered "code" n) ∧
    b.constructor = [.guarded (Naming.pascal decl.name ++ "::new")
      (.callSelf initializeMethod :: blocks.map .callSelf)]

theorem isLoweredFrom_of_ofMonitor {package : Option String} {index : SpaceIndex}
    {decl : Source.Monitor} {b : Blueprint} (h : Blueprint.ofMonitor package index decl = .ok b) :
    IsLoweredFrom package index decl b := by
  obtain ⟨parts, hparts, hok⟩ := bind_eq_ok.mp h
  cases hok
  have hlowers := foldlM_add_lowers hparts
  obtain ⟨types, hnested, htypes⟩ := hlowers.nested
  obtain ⟨methods, hmethods, hm⟩ := hlowers.methods
  obtain ⟨blocks, hblocks, hb⟩ := hlowers.blocks
  have hevents : parts.events = decl.body.filterMap eventName? := hlowers.events
  refine ⟨rfl, rfl, hlowers.fields, ?_, ⟨methods, hm, ?_⟩, ⟨blocks, hb, ?_⟩⟩
  · rw [hnested]
    exact htypes
  · rw [hmethods, hevents]
    rfl
  · rw [hblocks]
    rfl

theorem IsLoweredFrom.types {package : Option String} {index : SpaceIndex} {decl : Source.Monitor}
    {b : Blueprint} (h : IsLoweredFrom package index decl b) {type : Blueprint}
    (htype : type ∈ b.nested) :
    ∃ item ∈ decl.body, IsTypeOf (monitorScope package index decl) item type := by
  obtain ⟨item, hitem, hof⟩ := exists_of_forall₂_right h.nested htype
  exact ⟨item, List.mem_of_mem_filter hitem, hof⟩

theorem IsLoweredFrom.typed {package : Option String} {index : SpaceIndex} {decl : Source.Monitor}
    {b : Blueprint} (h : IsLoweredFrom package index decl b) {item : MonitorItem}
    (hitem : item ∈ decl.body) (hhas : hasType item) :
    ∃ type ∈ b.nested, IsTypeOf (monitorScope package index decl) item type :=
  exists_of_forall₂_right h.nested.flip (List.mem_filter.mpr ⟨hitem, hhas⟩)

/-- A look-up among the types of a monitor finds that of the first statement whose type has the
name. -/
theorem IsLoweredFrom.find? {package : Option String} {index : SpaceIndex} {decl : Source.Monitor}
    {b : Blueprint} (h : IsLoweredFrom package index decl b) {type : String} {t : Blueprint}
    (hfound : b.nested? type = some t) :
    ∃ item, decl.body.find? (typeName? (monitorScope package index decl) · == some type) =
        some item ∧ IsTypeOf (monitorScope package index decl) item t := by
  have hnames : ∀ item type', IsTypeOf (monitorScope package index decl) item type' →
      (typeName? (monitorScope package index decl) item == some type) = (type'.name == type) := by
    intro item type' hof
    rw [hof.typeName?]
    rfl
  obtain ⟨item, hitem, hof⟩ := find?_of_forall₂ h.nested hnames hfound
  refine ⟨item, ?_, hof⟩
  -- A statement without a type has no type name, so it is passed over.
  rw [List.find?_filter] at hitem
  rw [← hitem]
  congr 1
  funext other
  rw [Bool.eq_iff_iff]
  simpa using fun hname => hasType_of_typeName? hname

/-- A look-up finds some type under the type name of a statement. -/
theorem IsLoweredFrom.exists_nested? {package : Option String} {index : SpaceIndex}
    {decl : Source.Monitor} {b : Blueprint} (h : IsLoweredFrom package index decl b)
    {item : MonitorItem} (hitem : item ∈ decl.body) {type : String}
    (htype : typeName? (monitorScope package index decl) item = some type) :
    ∃ t, b.nested? type = some t := by
  obtain ⟨t, ht, hof⟩ := h.typed hitem (hasType_of_typeName? htype)
  have hname : t.name = type := by
    have hboth := hof.typeName?
    rw [htype] at hboth
    exact (Option.some.inj hboth).symm
  apply Option.isSome_iff_exists.mp
  exact List.find?_isSome.mpr ⟨t, ht, by simp [hname]⟩

/-- Where the types of a monitor have distinct names, a look-up finds the type of a statement. -/
theorem IsLoweredFrom.nested? {package : Option String} {index : SpaceIndex}
    {decl : Source.Monitor} {b : Blueprint} (h : IsLoweredFrom package index decl b)
    (hnames : (decl.body.filterMap (typeName? (monitorScope package index decl))).Nodup)
    {item : MonitorItem} (hitem : item ∈ decl.body) {type : String}
    (htype : typeName? (monitorScope package index decl) item = some type) :
    ∃ t, b.nested? type = some t ∧ IsTypeOf (monitorScope package index decl) item t := by
  obtain ⟨t, hfound⟩ := h.exists_nested? hitem htype
  -- The first type of this name is that of a statement with the same type name.
  have hsame := List.find?_some hfound
  obtain ⟨other, hother, hofother⟩ := h.types (List.mem_of_find?_eq_some hfound)
  have heq : other = item := by
    apply eq_of_nodup_filterMap hnames hother hitem hofother.typeName?
    rw [htype, eq_of_beq hsame]
  exact ⟨t, hfound, heq ▸ hofother⟩

/-! ## Checked names -/

theorem insert_eq_ok {reserved seen seen' : List String} {scope kind name : String}
    (h : Members.insert reserved scope seen kind name = .ok seen') :
    seen' = Naming.snake name :: seen ∧ Naming.snake name ∉ reserved ∧ Naming.snake name ∉ seen := by
  simp only [Members.insert] at h
  split at h
  · cases h
  · rename_i hreserved
    split at h
    · cases h
    · rename_i hseen
      cases h
      simp only [Bool.or_eq_true, not_or, List.contains_iff_mem] at hreserved hseen
      exact ⟨rfl, hreserved.1, hseen⟩

theorem insert_unnumbered {reserved seen seen' : List String} {scope kind name : String}
    (h : Members.insert reserved scope seen kind name = .ok seen') :
    Text.startsWith (Naming.snake name) "code_" = false := by
  simp only [Members.insert] at h
  split at h
  · cases h
  · rename_i hreserved
    simp only [Bool.or_eq_true, not_or, Bool.not_eq_true] at hreserved
    exact hreserved.2

/-- The names of members in their generated spelling, each once, and none of them reserved or that
of a code block. -/
structure AreMembers (names seen : List String) : Prop where
  seen : seen = (names.map Naming.snake).reverse
  distinct : (names.map Naming.snake).Nodup
  free : ∀ name ∈ names, Naming.snake name ∉ Members.monitorReserved
  unnumbered : ∀ name ∈ names, Text.startsWith (Naming.snake name) "code_" = false

theorem AreMembers.insert {names seen seen' : List String} {scope kind name : String}
    (hs : AreMembers names seen)
    (h : Members.insert Members.monitorReserved scope seen kind name = .ok seen') :
    AreMembers (names ++ [name]) seen' := by
  obtain ⟨hseen, hreserved, hnew⟩ := insert_eq_ok h
  refine ⟨by simp [hseen, hs.seen], ?_, ?_, ?_⟩
  · rw [List.map_append, List.nodup_append]
    refine ⟨hs.distinct, by simp, ?_⟩
    intro a ha c hc heq
    rw [List.map_singleton, List.mem_singleton] at hc
    apply hnew
    rw [hs.seen, List.mem_reverse, ← hc, ← heq]
    exact ha
  · intro other hother
    rcases List.mem_append.mp hother with hold | hlast
    · exact hs.free other hold
    · rw [List.mem_singleton.mp hlast]
      exact hreserved
  · intro other hother
    rcases List.mem_append.mp hother with hold | hlast
    · exact hs.unnumbered other hold
    · rw [List.mem_singleton.mp hlast]
      exact insert_unnumbered h

theorem foldlM_checkUsing {index : SpaceIndex} {monitor : String} {usings names seen seen' : List String}
    (hs : AreMembers names seen)
    (h : usings.foldlM (Members.checkUsing index monitor) seen = .ok seen') :
    AreMembers (names ++ usings) seen' := by
  induction usings generalizing names seen with
  | nil =>
    cases h
    simpa using hs
  | cons name rest ih =>
    rw [List.foldlM_cons] at h
    obtain ⟨between, hfirst, hrest⟩ := bind_eq_ok.mp h
    unfold Members.checkUsing at hfirst
    split at hfirst
    · have hall := ih (hs.insert hfirst) hrest
      simpa using hall
    · cases hfirst

theorem checkStatement_areMembers {monitor : String} {names seen seen' : List String}
    {item : MonitorItem} (hs : AreMembers names seen)
    (h : Members.checkStatement monitor seen item = .ok seen') :
    AreMembers (names ++ item.name?.toList) seen' := by
  rcases item with decl | decl | decl | source
  · exact hs.insert h
  · exact hs.insert h
  · obtain ⟨between, hinsert, hrest⟩ := bind_eq_ok.mp h
    split at hrest
    · cases hrest
    · cases hrest
      exact hs.insert hinsert
  · cases h
    simpa [MonitorItem.name?] using hs

theorem foldlM_checkStatement {monitor : String} {items : List MonitorItem}
    {names seen seen' : List String} (hs : AreMembers names seen)
    (h : items.foldlM (Members.checkStatement monitor) seen = .ok seen') :
    AreMembers (names ++ items.filterMap MonitorItem.name?) seen' := by
  induction items generalizing names seen with
  | nil =>
    cases h
    simpa using hs
  | cons item rest ih =>
    rw [List.foldlM_cons] at h
    obtain ⟨between, hfirst, hrest⟩ := bind_eq_ok.mp h
    have hall := ih (checkStatement_areMembers hs hfirst) hrest
    rw [List.filterMap_cons]
    cases hname : item.name? with
    | none => simpa [hname] using hall
    | some name => simpa [hname] using hall

theorem areMembers_of_checkMonitor {index : SpaceIndex} {decl : Source.Monitor}
    (h : Members.checkMonitor index decl = .ok ()) :
    ∃ seen, AreMembers (decl.usings ++ decl.body.filterMap MonitorItem.name?) seen := by
  obtain ⟨seen, husings, hrest⟩ := bind_eq_ok.mp h
  obtain ⟨seen', hbody, -⟩ := bind_eq_ok.mp hrest
  have hnone : AreMembers [] [] := ⟨rfl, by simp, by simp, by simp⟩
  exact ⟨seen', foldlM_checkStatement (foldlM_checkUsing hnone husings) hbody⟩

/-- The members of a monitor that passes its checks have distinct names in generated code, and
none of them is reserved. -/
theorem names_of_checkMonitor {index : SpaceIndex} {decl : Source.Monitor}
    (h : Members.checkMonitor index decl = .ok ()) :
    ((decl.usings ++ decl.body.filterMap MonitorItem.name?).map Naming.snake).Nodup ∧
      ∀ name ∈ decl.usings ++ decl.body.filterMap MonitorItem.name?,
        Naming.snake name ∉ Members.monitorReserved := by
  obtain ⟨seen, hmembers⟩ := areMembers_of_checkMonitor h
  exact ⟨hmembers.distinct, hmembers.free⟩

theorem nodup_of_map {α β : Type} {f : α → β} {items : List α} (h : (items.map f).Nodup) :
    items.Nodup :=
  List.Pairwise.imp (fun hne heq => hne (congrArg f heq)) (List.pairwise_map.mp h)

theorem numbered_code_ne (n : Nat) : ∀ reserved ∈ ["initialize", "pause", "resume"],
    NameSupply.numbered "code" n ≠ reserved := by
  have hchars : ∀ reserved ∈ ["initialize", "pause", "resume"],
      (NameSupply.numbered "code" n).toList ≠ reserved.toList := by
    simp [NameSupply.numbered]
  intro reserved hreserved heq
  exact hchars reserved hreserved (heq ▸ rfl)

/-- No method of a handler or a code block has the name of a method that every monitor has. -/
theorem IsMethodOf.name_ne {items : List MonitorItem} {m : Method} (h : IsMethodOf items m)
    (hfree : ∀ name ∈ items.filterMap MonitorItem.name?,
      Naming.snake name ∉ Members.monitorReserved) {reserved : String}
    (hreserved : reserved ∈ ["initialize", "pause", "resume"]) : m.name ≠ reserved := by
  rintro rfl
  rcases h with ⟨decl, kind, hmem, rfl⟩ | ⟨n, source, rfl⟩
  · have hname := hfree decl.name (List.mem_filterMap.mpr ⟨_, hmem, rfl⟩)
    have hcases : decl.name = "initialize" ∨ decl.name = "pause" ∨ decl.name = "resume" := by
      simpa [handlerMethod] using hreserved
    rcases hcases with heq | heq | heq
    · exact hname (by rw [heq]; decide)
    · exact hname (by rw [heq]; decide)
    · exact hname (by rw [heq]; decide)
  · exact numbered_code_ne n _ hreserved rfl

/-- The methods that every monitor has are found under their names. -/
theorem IsLoweredFrom.find_method {package : Option String} {index : SpaceIndex}
    {decl : Source.Monitor} {b : Blueprint} (h : IsLoweredFrom package index decl b)
    (hfree : ∀ name ∈ decl.body.filterMap MonitorItem.name?,
      Naming.snake name ∉ Members.monitorReserved) :
    b.methods.find? (·.name == "initialize") = some (bindMethod decl.usings) ∧
      b.methods.find? (·.name == "pause") =
        some (pauseMethod (decl.body.filterMap eventName?)) ∧
      b.methods.find? (·.name == "resume") =
        some (resumeMethod (decl.body.filterMap eventName?)) := by
  obtain ⟨methods, hmethods, heq⟩ := h.methods
  have hnone : ∀ reserved ∈ ["initialize", "pause", "resume"],
      methods.find? (·.name == reserved) = none := by
    intro reserved hreserved
    rw [List.find?_eq_none]
    intro m hm
    simpa using (hmethods m hm).name_ne hfree hreserved
  rw [heq]
  refine ⟨?_, ?_, ?_⟩
  · rw [List.find?_append, hnone _ (by simp)]
    rfl
  · rw [List.find?_append, hnone _ (by simp)]
    rfl
  · rw [List.find?_append, hnone _ (by simp)]
    rfl

end Watchtower
