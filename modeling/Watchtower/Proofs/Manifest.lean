-- The manifest of accepted monitors. It is read off the fields and the constructors of blueprints,
-- and says of each monitor what was declared: its namespaces, its events with the queues that they
-- bind, its handlers, and how many code blocks it has. No two events share a queue.
import Watchtower.Manifest.Basic
import Watchtower.Proofs.Blueprint.Code
import Watchtower.Proofs.Linking.Changes

namespace Watchtower

open Linking
open Source (MonitorItem EventDecl HandlerDecl Declaration)
open Text (Undotted)

/-! ## Declared entries -/

/-- The binding for which a route asks. -/
def Route.binding (r : Route) : Binding := ⟨r.exchange, r.routingKey, r.queue⟩

/-- The entry of a declared event. -/
def EventEntry.ofDeclared (scope : MonitorScope) (decl : EventDecl) : EventEntry :=
  match decl.emitter with
  | .periodic cron =>
    { name := decl.name, kind := "periodic", payload := some .interval, cron := some cron }
  | .typed .change emitter specifier =>
    let route := Route.ofEmitter? scope.qualifiedName decl.name emitter scope.index
    { name := decl.name, kind := "change", payload := some .change
      binding := route.map Route.binding
      variablePath := route.map (·.variablePath)
      filtered := specifier.isSome }
  | .typed occurrence .. =>
    { name := decl.name, kind := "probe", payload := some occurrence.kind
      binding := some ⟨probeExchange, scope.member decl.name, scope.member decl.name⟩ }

/-- The entry of a declared handler, if it takes events of a known type. -/
def HandlerEntry.ofDeclared? (scope : MonitorScope) (decl : HandlerDecl) : Option HandlerEntry :=
  (EventKind.ofTypeName? decl.paramType).map fun kind =>
    ⟨decl.name, kind, (Blueprint.ofHandler scope decl kind).name⟩

/-- The entry of a monitor lists what is declared, in the order of the declarations. -/
structure MonitorEntry.Lists (package : Option String) (index : SpaceIndex) (decl : Source.Monitor)
    (entry : MonitorEntry) : Prop where
  typeName : entry.typeName = Naming.pascal decl.name
  usings : entry.usings = decl.usings
  events : entry.events = (decl.body.filterMap MonitorItem.event?).map
    (EventEntry.ofDeclared (monitorScope package index decl))
  handlers : entry.handlers.map some = (decl.body.filterMap MonitorItem.handler?).map
    (HandlerEntry.ofDeclared? (monitorScope package index decl))
  codeBlocks : entry.codeBlocks = codeCount decl.body

/-! ## Entries of blueprints -/

theorem isSome_of_predicateType {scope : MonitorScope} {names names' : NameSupply} {event : String}
    {specifier : Option Source.Specifier} {predicate : Option Blueprint}
    (h : predicateType scope names event specifier = .ok (predicate, names')) :
    predicate.isSome = specifier.isSome := by
  cases specifier with
  | none =>
    cases h
    rfl
  | some node =>
    obtain ⟨⟨compiled, rest⟩, -, hok⟩ := bind_eq_ok.mp h
    cases hok
    rfl

/-- The entry of the type of an event is that of its declaration. -/
theorem IsTypeOf.eventEntry {scope : MonitorScope} {decl : EventDecl} {t : Blueprint}
    (h : IsTypeOf scope (.event decl) t) :
    EventEntry.ofBlueprint decl.name t = EventEntry.ofDeclared scope decl := by
  cases h with
  | @change name emitter specifier span route _ _ predicate hroute hpredicate =>
    simp only [EventEntry.ofDeclared, hroute, ← isSome_of_predicateType hpredicate]
    cases predicate with
    | none => rfl
    | some p => rfl
  | @probe name occurrence emitter span hoccurrence =>
    unfold EventEntry.ofDeclared
    split
    · rename_i hperiodic
      cases hperiodic
    · rename_i hchange
      cases hchange
      exact absurd rfl hoccurrence
    · rename_i htyped
      cases htyped
      rfl

theorem kind_ofHandler (scope : MonitorScope) (decl : HandlerDecl) (kind : EventKind) :
    (Blueprint.ofHandler scope decl kind).kind =
      if kind = .interval then .intervalJob decl.name else .observerAdapter kind decl.name := by
  unfold Blueprint.ofHandler
  split <;> rfl

/-- The entry of a field with the type of a handler has the payload that the handler takes. -/
theorem HandlerEntry.ofField?_of_nested? {b : Blueprint} {type : String} {scope : MonitorScope}
    {decl : HandlerDecl} {kind : EventKind}
    (hfound : b.nested? type = some (Blueprint.ofHandler scope decl kind)) (name : String)
    (init : Option FieldInit) :
    HandlerEntry.ofField? b { name, type := .handler type, init } = some ⟨name, kind, type⟩ := by
  unfold HandlerEntry.ofField?
  simp only [hfound, Option.map_some, kind_ofHandler]
  by_cases hkind : kind = .interval
  · simp [hkind]
  · simp [hkind]

section Monitors

variable {package : Option String} {index : SpaceIndex} {decl : Source.Monitor} {b : Blueprint}

/-- The field of a statement is listed as the event that the statement declares. -/
theorem IsLoweredFrom.eventEntry (h : IsLoweredFrom package index decl b)
    (htypes : (decl.body.filterMap (typeName? (monitorScope package index decl))).Nodup)
    {item : MonitorItem} (hitem : item ∈ decl.body) :
    (fieldOf? (monitorScope package index decl) item).bind (EventEntry.ofField? b) =
      item.event?.map (EventEntry.ofDeclared (monitorScope package index decl)) := by
  rcases item with v | ⟨event, cron | ⟨occurrence, chain, specifier⟩, span⟩ | handler | source
  · rfl
  · rfl
  · obtain ⟨t, hfound, hof⟩ := h.nested? htypes hitem rfl
    show (b.nested? _).map (EventEntry.ofBlueprint event) = _
    rw [hfound, Option.map_some, hof.eventEntry]
    rfl
  · cases hkind : EventKind.ofTypeName? handler.paramType with
    | none => simp [fieldOf?, hkind, MonitorItem.event?]
    | some kind => simp [fieldOf?, hkind, MonitorItem.event?, EventEntry.ofField?]
  · rfl

/-- The field of a statement is listed as the handler that the statement declares. -/
theorem IsLoweredFrom.handlerEntry (h : IsLoweredFrom package index decl b)
    (htypes : (decl.body.filterMap (typeName? (monitorScope package index decl))).Nodup)
    {item : MonitorItem} (hitem : item ∈ decl.body) :
    ((fieldOf? (monitorScope package index decl) item).bind (HandlerEntry.ofField? b)).map some =
      item.handler?.map (HandlerEntry.ofDeclared? (monitorScope package index decl)) := by
  rcases item with v | ⟨event, cron | ⟨occurrence, chain, specifier⟩, span⟩ | handler | source
  · rfl
  · rfl
  · rfl
  · -- The handler was lowered, so it takes events of a known type.
    obtain ⟨t, ht, hof⟩ := h.typed hitem rfl
    obtain ⟨t', hfound, hof'⟩ := h.nested? htypes hitem hof.typeName?
    cases hof with
    | @handler _ kind hkind =>
      cases hof' with
      | @handler _ kind' hkind' =>
        cases hkind.symm.trans hkind'
        simp only [fieldOf?, hkind, Option.map_some, Option.bind_some, MonitorItem.handler?,
          HandlerEntry.ofDeclared?]
        rw [HandlerEntry.ofField?_of_nested? hfound, Option.map_some]
  · rfl

/-! ## Code blocks -/

theorem add_isCodeBlock {scope : MonitorScope} {before after : MonitorParts} {item : MonitorItem}
    (h : before.add scope item = .ok after) :
    after.methods.countP Method.isCodeBlock =
      before.methods.countP Method.isCodeBlock + codeCount [item] := by
  rcases item with decl | decl | decl | source
  · cases h
    rfl
  · obtain ⟨⟨field, type, names⟩, -, hok⟩ := bind_eq_ok.mp h
    cases hok
    rfl
  · simp only [MonitorParts.add] at h
    split at h
    · cases h
    · rename_i kind hkind
      cases h
      have hmethod : [handlerMethod decl kind].countP Method.isCodeBlock = 0 := rfl
      rw [List.countP_append, hmethod]
      rfl
  · cases h
    rw [List.countP_append]
    rfl

theorem foldlM_add_isCodeBlock {scope : MonitorScope} {items : List MonitorItem}
    {before after : MonitorParts} (h : items.foldlM (MonitorParts.add scope) before = .ok after) :
    after.methods.countP Method.isCodeBlock =
      before.methods.countP Method.isCodeBlock + codeCount items := by
  induction items generalizing before with
  | nil =>
    cases h
    rfl
  | cons item rest ih =>
    rw [List.foldlM_cons] at h
    obtain ⟨between, hfirst, hrest⟩ := bind_eq_ok.mp h
    have hcount : codeCount ([item] ++ rest) = codeCount [item] + codeCount rest :=
      List.countP_append
    rw [List.singleton_append] at hcount
    rw [ih hrest, add_isCodeBlock hfirst, hcount, Nat.add_assoc]

/-- Neither the method that binds namespaces nor those that move a monitor are code blocks. -/
theorem isCodeBlock_of_given (usings events : List String) :
    [bindMethod usings, pauseMethod events, resumeMethod events].countP Method.isCodeBlock = 0 := by
  rw [List.countP_eq_zero]
  intro m hm
  simp only [List.mem_cons, List.not_mem_nil, or_false] at hm
  rcases hm with rfl | rfl | rfl
  · simp [Method.isCodeBlock, bindMethod]
  · simp [Method.isCodeBlock, pauseMethod]
  · simp [Method.isCodeBlock, resumeMethod]

/-! ## Entries of monitors -/

/-- What is listed of the fields is listed of the statements, where nothing is listed of the
namespaces. -/
theorem IsLoweredFrom.filterMap_fields (h : IsLoweredFrom package index decl b) {α : Type}
    {f : Field → Option α} (husings : ∀ name, f (usingField name) = none) :
    b.fields.filterMap f =
      decl.body.filterMap fun item => (fieldOf? (monitorScope package index decl) item).bind f := by
  have hnone : (decl.usings.map usingField).filterMap f = [] := by
    simp [husings]
  rw [h.fields, List.filterMap_append, hnone, List.nil_append, List.filterMap_filterMap]

/-- What is listed just of the namespaces lists them as they are declared. -/
theorem IsLoweredFrom.filterMap_usings (h : IsLoweredFrom package index decl b)
    {f : Field → Option String} (husings : ∀ name, f (usingField name) = some name)
    (hothers : ∀ item ∈ decl.body,
      (fieldOf? (monitorScope package index decl) item).bind f = none) :
    b.fields.filterMap f = decl.usings := by
  have hfirst : (decl.usings.map usingField).filterMap f = decl.usings := by
    simp [husings]
  rw [h.fields, List.filterMap_append, List.filterMap_filterMap, hfirst,
    List.filterMap_eq_nil_iff.mpr hothers, List.append_nil]

/-- The entry of a lowered monitor lists what the monitor declares. -/
theorem lists_of_ofMonitor (hlower : Blueprint.ofMonitor package index decl = .ok b)
    (htypes : (decl.body.filterMap (typeName? (monitorScope package index decl))).Nodup) :
    (MonitorEntry.ofBlueprint b).Lists package index decl := by
  have h := isLoweredFrom_of_ofMonitor hlower
  refine ⟨?typeName, ?usings, ?events, ?handlers, ?codeBlocks⟩
  case typeName =>
    obtain ⟨parts, -, hok⟩ := bind_eq_ok.mp hlower
    cases hok
    rfl
  case usings =>
    refine h.filterMap_usings (fun _ => rfl) fun item _ => ?_
    rcases item with v | ⟨event, cron | ⟨occurrence, chain, specifier⟩, span⟩ | handler | source
    · rfl
    · rfl
    · rfl
    · cases hkind : EventKind.ofTypeName? handler.paramType <;> simp [fieldOf?, hkind]
    · rfl
  case events =>
    show b.fields.filterMap (EventEntry.ofField? b) = _
    rw [h.filterMap_fields fun _ => rfl, List.map_filterMap]
    exact List.filterMap_congr fun item hitem => h.eventEntry htypes hitem
  case handlers =>
    show (b.fields.filterMap (HandlerEntry.ofField? b)).map some = _
    rw [h.filterMap_fields fun _ => rfl, List.map_filterMap, List.map_filterMap]
    exact List.filterMap_congr fun item hitem => h.handlerEntry htypes hitem
  case codeBlocks =>
    obtain ⟨parts, hparts, hok⟩ := bind_eq_ok.mp hlower
    cases hok
    show (parts.methods ++ [bindMethod decl.usings, pauseMethod parts.events,
      resumeMethod parts.events]).countP Method.isCodeBlock = _
    rw [List.countP_append, isCodeBlock_of_given, foldlM_add_isCodeBlock hparts]
    simp

end Monitors

/-! ## Queues -/

/-- The bindings that are listed for the events of a monitor. -/
def MonitorEntry.bindings (entry : MonitorEntry) : List Binding :=
  entry.events.filterMap (·.binding)

/-- The binding of a statement, if it declares an event that has one. -/
def bindingOf? (scope : MonitorScope) (item : MonitorItem) : Option Binding :=
  item.event?.bind fun event => (EventEntry.ofDeclared scope event).binding

/-- The bindings of the events of a monitor. -/
def bindingsOf (package : Option String) (index : SpaceIndex) (decl : Source.Monitor) :
    List Binding :=
  decl.body.filterMap (bindingOf? (monitorScope package index decl))

/-- The queue that is listed for a declared event belongs to the event. -/
theorem owns_of_ofDeclared {scope : MonitorScope} {decl : EventDecl} {r : Binding}
    (h : (EventEntry.ofDeclared scope decl).binding = some r) :
    Owns scope.qualifiedName decl.name r.queue := by
  unfold EventEntry.ofDeclared at h
  split at h
  · cases h
  · obtain ⟨route, hroute, rfl⟩ := Option.map_eq_some_iff.mp h
    exact owns_of_ofEmitter? hroute
  · cases h
    exact .inl rfl

theorem owns_of_bindingOf? {scope : MonitorScope} {item : MonitorItem} {r : Binding}
    (h : bindingOf? scope item = some r) :
    ∃ name, eventName? item = some name ∧ Owns scope.qualifiedName name r.queue := by
  obtain ⟨event, hevent, hbinding⟩ := Option.bind_eq_some_iff.mp h
  cases item with
  | event own =>
    cases hevent
    exact ⟨_, rfl, owns_of_ofDeclared hbinding⟩
  | _ => cases hevent

section Queues

variable {package : Option String} {index : SpaceIndex}

/-- The events of a monitor with names of their own have queues of their own. -/
theorem nodup_queues_of_monitor {decl : Source.Monitor} (hname : Undotted decl.name)
    (hdots : ∀ name ∈ decl.body.filterMap eventName?, Undotted name)
    (hevents : (decl.body.filterMap eventName?).Nodup) :
    ((bindingsOf package index decl).map (·.queue)).Nodup := by
  rw [List.nodup_iff_pairwise_ne, List.pairwise_filterMap] at hevents
  unfold bindingsOf
  rw [List.nodup_iff_pairwise_ne, List.pairwise_map, List.pairwise_filterMap]
  -- The queue of an event tells the name of the event.
  apply List.Pairwise.imp_of_mem _ hevents
  intro item item' hitem hitem' hne r hr r' hr' hqueue
  obtain ⟨name, hown, howns⟩ := owns_of_bindingOf? hr
  obtain ⟨name', hown', howns'⟩ := owns_of_bindingOf? hr'
  rw [hqueue] at howns
  have hundotted := hdots name (List.mem_filterMap.mpr ⟨item, hitem, hown⟩)
  have hundotted' := hdots name' (List.mem_filterMap.mpr ⟨item', hitem', hown'⟩)
  exact hne name hown name' hown'
    (owners_unique hname hundotted hname hundotted' howns howns').2

/-- The events of monitors with names of their own have queues of their own. -/
theorem nodup_queues_of_monitors {decls : List Source.Monitor} (hnames : (decls.map (·.name)).Nodup)
    (hdots : ∀ decl ∈ decls, Undotted decl.name)
    (heventDots : ∀ decl ∈ decls, ∀ name ∈ decl.body.filterMap eventName?, Undotted name)
    (hevents : ∀ decl ∈ decls, (decl.body.filterMap eventName?).Nodup) :
    ((decls.flatMap (bindingsOf package index)).map (·.queue)).Nodup := by
  rw [List.nodup_iff_pairwise_ne, List.pairwise_map] at hnames
  rw [List.map_flatMap, List.nodup_iff_pairwise_ne, List.pairwise_flatMap]
  refine ⟨fun decl hdecl => ?_, ?_⟩
  · exact nodup_queues_of_monitor (hdots decl hdecl) (heventDots decl hdecl) (hevents decl hdecl)
  · apply List.Pairwise.imp_of_mem _ hnames
    intro decl decl' hdecl hdecl' hne queue hqueue queue' hqueue' hsame
    obtain ⟨r, hr, rfl⟩ := List.mem_map.mp hqueue
    obtain ⟨r', hr', rfl⟩ := List.mem_map.mp hqueue'
    obtain ⟨item, hitem, hbinding⟩ := List.mem_filterMap.mp hr
    obtain ⟨item', hitem', hbinding'⟩ := List.mem_filterMap.mp hr'
    obtain ⟨name, hown, howns⟩ := owns_of_bindingOf? hbinding
    obtain ⟨name', hown', howns'⟩ := owns_of_bindingOf? hbinding'
    rw [hsame] at howns
    have hundotted := heventDots decl hdecl name (List.mem_filterMap.mpr ⟨item, hitem, hown⟩)
    have hundotted' :=
      heventDots decl' hdecl' name' (List.mem_filterMap.mpr ⟨item', hitem', hown'⟩)
    -- The queue tells the name of the monitor, too.
    exact hne (owners_unique (hdots decl hdecl) hundotted (hdots decl' hdecl') hundotted' howns
      howns').1

end Queues

section Entries

variable {package : Option String} {index : SpaceIndex} {decl : Source.Monitor}
  {entry : MonitorEntry}

/-- The listed bindings are those of the statements. -/
theorem MonitorEntry.Lists.bindings (h : entry.Lists package index decl) :
    entry.bindings = bindingsOf package index decl := by
  unfold MonitorEntry.bindings bindingsOf bindingOf?
  rw [h.events, List.filterMap_map, List.filterMap_filterMap]
  rfl

end Entries

/-- The events of an accepted monitor have names of their own. -/
theorem eventNames_of_outcome {package : Option String} {index : SpaceIndex} {decl : Source.Monitor}
    {b : Blueprint} (haccepted : Report.outcome true package index (.monitor decl) = .ok b) :
    (decl.body.filterMap eventName?).Nodup := by
  have hmembers := (names_of_checkMonitor (outcome_eq_ok.mp haccepted).1).1
  exact nodup_eventNames (List.nodup_append.mp (nodup_of_map hmembers)).2.1

/-! ## Manifests -/

/-- The entries of the monitors among some blueprints, under their qualified names. -/
def monitorEntries (bs : List Blueprint) : List (String × MonitorEntry) :=
  bs.filterMap fun b =>
    match b.kind with
    | .monitor => some (b.qualifiedName, MonitorEntry.ofBlueprint b)
    | _ => none

/-- The bindings of the monitors among some blueprints, in the order of the declarations. -/
def monitorBindings (bs : List Blueprint) : List Binding :=
  (monitorEntries bs).flatMap (·.2.bindings)

/-- Declarations of a package whose monitors and events are told apart by their names. -/
structure AreDistinct (package : Option String) (index : SpaceIndex) (decls : List Declaration) :
    Prop where
  names : ∀ decl ∈ decls, ∀ name ∈ decl.names, Undotted name
  monitors : (decls.filterMap monitorName?).Nodup
  types : ∀ decl ∈ decls, (typeNames package index decl).Nodup

instance (package : Option String) (index : SpaceIndex) (decls : List Declaration) :
    Decidable (AreDistinct package index decls) :=
  decidable_of_iff ((∀ decl ∈ decls, ∀ name ∈ decl.names, Undotted name) ∧
    (decls.filterMap monitorName?).Nodup ∧ ∀ decl ∈ decls, (typeNames package index decl).Nodup)
    ⟨fun ⟨names, monitors, types⟩ => ⟨names, monitors, types⟩,
      fun h => ⟨h.names, h.monitors, h.types⟩⟩

section Packages

variable {package : Option String} {index : SpaceIndex} {decls : List Declaration}

/-- The entry of a declaration, if it is an accepted monitor. -/
def monitorEntryOf? (package : Option String) (index : SpaceIndex) :
    Declaration → Option (String × MonitorEntry)
  | .monitor decl => (Report.outcome true package index (.monitor decl)).toOption.map fun b =>
      (Source.qualify package decl.name, MonitorEntry.ofBlueprint b)
  | .space _ => none

/-- The entries of accepted declarations are those of the accepted monitors. -/
theorem monitorEntries_lowerAll (decls : List Declaration) :
    monitorEntries (lowerAll package index decls) =
      decls.filterMap (monitorEntryOf? package index) := by
  unfold monitorEntries lowerAll
  rw [List.filterMap_filterMap]
  congr 1
  funext decl
  cases hout : Report.outcome true package index decl with
  | error rejection => cases decl <;> simp [monitorEntryOf?, hout, Except.toOption]
  | ok b =>
    have hlower := (outcome_eq_ok.mp hout).2
    cases decl with
    | monitor decl =>
      have h := isLoweredFrom_of_ofMonitor hlower
      simp [monitorEntryOf?, hout, Except.toOption, h.kind, h.qualifiedName]
    | space decl =>
      cases hlower
      rfl

theorem AreDistinct.lists (h : AreDistinct package index decls) {decl : Source.Monitor}
    (hdecl : .monitor decl ∈ decls) {b : Blueprint}
    (hout : Report.outcome true package index (.monitor decl) = .ok b) :
    (MonitorEntry.ofBlueprint b).Lists package index decl :=
  lists_of_ofMonitor (outcome_eq_ok.mp hout).2 (h.types _ hdecl)

/-- The monitor of a declaration, if it is accepted. -/
def acceptedMonitor? (package : Option String) (index : SpaceIndex) :
    Declaration → Option Source.Monitor
  | .monitor decl =>
    if (Report.outcome true package index (.monitor decl)).isOk then some decl else none
  | .space _ => none

theorem acceptedMonitor?_eq_some {decl : Declaration} {monitor : Source.Monitor} :
    acceptedMonitor? package index decl = some monitor ↔ decl = .monitor monitor ∧
      ∃ b, Report.outcome true package index (.monitor monitor) = .ok b := by
  cases decl with
  | space decl => simp [acceptedMonitor?]
  | monitor decl =>
    rw [acceptedMonitor?, Option.ite_none_right_eq_some, isOk_iff_succeeds]
    constructor
    · rintro ⟨haccepted, hsome⟩
      cases hsome
      exact ⟨rfl, haccepted⟩
    · rintro ⟨hsame, haccepted⟩
      cases hsame
      exact ⟨haccepted, rfl⟩

theorem mem_acceptedMonitors {monitor : Source.Monitor} :
    monitor ∈ decls.filterMap (acceptedMonitor? package index) ↔ .monitor monitor ∈ decls ∧
      ∃ b, Report.outcome true package index (.monitor monitor) = .ok b := by
  simp only [List.mem_filterMap, acceptedMonitor?_eq_some]
  constructor
  · rintro ⟨decl, hdecl, rfl, haccepted⟩
    exact ⟨hdecl, haccepted⟩
  · rintro ⟨hdecl, haccepted⟩
    exact ⟨_, hdecl, rfl, haccepted⟩

/-- What the manifest lists is what the accepted monitors declare. -/
theorem AreDistinct.monitorBindings_eq (h : AreDistinct package index decls) :
    monitorBindings (lowerAll package index decls) =
      (decls.filterMap (acceptedMonitor? package index)).flatMap (bindingsOf package index) := by
  unfold monitorBindings
  rw [monitorEntries_lowerAll, List.filterMap_eq_flatMap_toList, List.flatMap_assoc,
    List.filterMap_eq_flatMap_toList, List.flatMap_assoc]
  refine List.flatMap_congr fun decl hdecl => ?_
  cases decl with
  | space decl => rfl
  | monitor decl =>
    cases hout : Report.outcome true package index (.monitor decl) with
    | error rejection =>
      simp [monitorEntryOf?, acceptedMonitor?, hout, Except.toOption, Except.isOk, Except.toBool]
    | ok b =>
      simp [monitorEntryOf?, acceptedMonitor?, hout, Except.toOption, Except.isOk, Except.toBool,
        (h.lists hdecl hout).bindings]

/-- No two events of accepted monitors share a queue. -/
theorem AreDistinct.nodup_queues (h : AreDistinct package index decls) :
    ((monitorBindings (lowerAll package index decls)).map (·.queue)).Nodup := by
  rw [h.monitorBindings_eq]
  have hmember : ∀ decl ∈ decls.filterMap (acceptedMonitor? package index),
      ∀ name ∈ (Declaration.monitor decl).names, Undotted name :=
    fun decl hdecl => h.names _ (mem_acceptedMonitors.mp hdecl).1
  refine nodup_queues_of_monitors ?_ (fun decl hdecl => hmember decl hdecl _ List.mem_cons_self)
    (fun decl hdecl name hname => ?_) fun decl hdecl => ?_
  · have hnames := h.monitors
    rw [List.nodup_iff_pairwise_ne, List.pairwise_filterMap] at hnames
    rw [List.nodup_iff_pairwise_ne, List.pairwise_map, List.pairwise_filterMap]
    refine hnames.imp fun hne monitor hmonitor monitor' hmonitor' => ?_
    obtain ⟨rfl, -⟩ := acceptedMonitor?_eq_some.mp hmonitor
    obtain ⟨rfl, -⟩ := acceptedMonitor?_eq_some.mp hmonitor'
    exact hne monitor.name rfl monitor'.name rfl
  · exact hmember decl hdecl _ (List.mem_cons_of_mem _ (eventName?_mem_name? hname))
  · obtain ⟨-, b, hout⟩ := mem_acceptedMonitors.mp hdecl
    exact eventNames_of_outcome hout

end Packages

end Watchtower
