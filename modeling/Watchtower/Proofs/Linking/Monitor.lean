-- Linked monitors. The fields of a monitor are made one after the other: each event gets a source
-- of its own, and the source of a change event is tuned to its variable. The constructor binds
-- namespaces, and whatever fails in it is recorded.
import Watchtower.Linking.Monitor
import Watchtower.Proofs.Linking.Event
import Watchtower.Proofs.Live.Binding

namespace Watchtower.Linking

open Live
open Source (MonitorItem Specifier)
open Text (Undotted)

/-! ## Members -/

/-- The source is tuned to the variable at which the emitter of a change event points, and lets
the changes pass that pass the specifier. -/
def IsTunedTo (scope : MonitorScope) (w : World) (event : String) (emitter : Source.Expr)
    (specifier : Option Specifier) (source : Nat) : Prop :=
  ∃ route filter, Route.ofEmitter? scope.qualifiedName event emitter scope.index = some route ∧
    w.IsTuned source (routeConfig route) route.variablePath filter ∧
      ∀ previous current, filter.all (·.passes previous current) =
        passes specifier previous current

theorem IsTunedTo.grows {scope : MonitorScope} {w w' : World} {event : String}
    {emitter : Source.Expr} {specifier : Option Specifier} {source : Nat} {own : String → Prop}
    (h : IsTunedTo scope w event emitter specifier source) (hg : w.Grows own w') :
    IsTunedTo scope w' event emitter specifier source := by
  obtain ⟨route, filter, hroute, htuned, hpasses⟩ := h
  exact ⟨route, filter, hroute, htuned.grows hg, hpasses⟩

/-- The observer of a handler. -/
def observerOf (scope : MonitorScope) (place : MonitorPlace) (decl : Source.HandlerDecl)
    (kind : EventKind) : Observer :=
  { name := scope.member decl.name
    kind
    owner := some place.number
    react := place.bindings.reaction place.blueprint.qualifiedName place.number decl.name }

/-- The queue belongs to one of the events among some statements. -/
def OwnsAny (monitor : String) (items : List MonitorItem) (queue : String) : Prop :=
  ∃ event ∈ items.filterMap eventName?, Owns monitor event queue

theorem OwnsAny.mono {monitor queue : String} {items items' : List MonitorItem}
    (h : OwnsAny monitor items queue) (hsub : items ⊆ items') : OwnsAny monitor items' queue := by
  obtain ⟨event, hevent, howns⟩ := h
  obtain ⟨item, hitem, hname⟩ := List.mem_filterMap.mp hevent
  exact ⟨event, List.mem_filterMap.mpr ⟨item, hsub hitem, hname⟩, howns⟩

/-- Where only the queues of some events were taken, those of an event of another name stay free. -/
theorem free_of_grows {package : Option String} {monitor event : String} {items : List MonitorItem}
    {w w' : World} (hmonitor : Undotted monitor)
    (hgrows : w.Grows (OwnsAny (Source.qualify package monitor) items) w')
    (hdots : ∀ other ∈ items.filterMap eventName?, Undotted other) (hevent : Undotted event)
    (hother : event ∉ items.filterMap eventName?)
    (hfree : ∀ c ∈ w.consumers, ¬ Owns (Source.qualify package monitor) event c.config.queue) :
    ∀ c ∈ w'.consumers, ¬ Owns (Source.qualify package monitor) event c.config.queue := by
  intro c hc howns
  obtain ⟨added, hadded, hown⟩ := hgrows.consumers
  rw [hadded] at hc
  rcases List.mem_append.mp hc with hold | hnew
  · exact hfree c hold howns
  · -- A queue of one of these events would tell that the two events have one name.
    obtain ⟨⟨other, hmem, howns'⟩, -⟩ := hown c hnew
    have hsame := (owners_unique hmonitor hevent hmonitor (hdots other hmem) howns howns').2
    exact hother (hsame ▸ hmem)

/-- What is made of statements: sources of their events, and observers of their handlers. -/
structure Makes (scope : MonitorScope) (place : MonitorPlace) (items : List MonitorItem)
    (members : MonitorMembers) (w : World) (members' : MonitorMembers) (w' : World) : Prop where
  grows : w.Grows (OwnsAny scope.qualifiedName items) w'
  monitors : w'.monitors = w.monitors
  events : ∃ more, members'.events = members.events ++ more ∧
    more.map (·.1) = items.filterMap eventName? ∧
    (∀ event ∈ more, w.sources.length ≤ event.2 ∧ event.2 < w'.sources.length) ∧
    ∀ event emitter specifier span, .event ⟨event, .typed .change emitter specifier, span⟩ ∈ items →
      ∃ source, (event, source) ∈ more ∧ (w.IsWired →
        (∀ c ∈ w.consumers, ¬ Owns scope.qualifiedName event c.config.queue) →
          IsTunedTo scope w' event emitter specifier source)
  handlers : ∀ decl kind, .handler decl ∈ items → EventKind.ofTypeName? decl.paramType = some kind →
    kind ≠ .interval → members'.handlers.lookup decl.name =
      some (.observer (observerOf scope place decl kind))
  others : ∀ name ∉ items.filterMap MonitorItem.name?,
    members'.handlers.lookup name = members.handlers.lookup name

theorem eventName?_mem_name? {items : List MonitorItem} {event : String}
    (h : event ∈ items.filterMap eventName?) : event ∈ items.filterMap MonitorItem.name? := by
  obtain ⟨item, hitem, hname⟩ := List.mem_filterMap.mp h
  rcases item with decl | decl | decl | source
  · cases hname
  · exact List.mem_filterMap.mpr ⟨_, hitem, hname⟩
  · cases hname
  · cases hname

theorem nodup_eventNames {items : List MonitorItem}
    (h : (items.filterMap MonitorItem.name?).Nodup) : (items.filterMap eventName?).Nodup := by
  induction items with
  | nil => simp
  | cons item rest ih =>
    rcases item with decl | decl | decl | source
    · exact ih (List.nodup_cons.mp h).2
    · obtain ⟨hnot, hrest⟩ := List.nodup_cons.mp h
      exact List.nodup_cons.mpr ⟨fun hmem => hnot (eventName?_mem_name? hmem), ih hrest⟩
    · exact ih (List.nodup_cons.mp h).2
    · exact ih h

/-- Statements that have no field make nothing. -/
theorem makes_of_no_field {scope : MonitorScope} (place : MonitorPlace) {item : MonitorItem}
    (h : fieldOf? scope item = none) (members : MonitorMembers) (w : World) :
    Makes scope place [item] members w members w := by
  rcases item with decl | ⟨name, emitter | ⟨occurrence, emitter, specifier⟩, span⟩ | decl | source
  · cases h
  · cases h
  · cases h
  · refine ⟨.refl _ w, rfl, ⟨[], by simp [eventName?]⟩, ?_, fun _ _ => rfl⟩
    intro other kind hmem hkind _
    rw [List.mem_singleton] at hmem
    cases hmem
    simp [fieldOf?, hkind] at h
  · exact ⟨.refl _ w, rfl, ⟨[], by simp [eventName?]⟩, by simp, fun _ _ => rfl⟩

/-- What is made of statements and then of others is made of all of them. The queues of the first
do not belong to the events of the others. -/
theorem Makes.append {scope : MonitorScope} {place : MonitorPlace} {first rest : List MonitorItem}
    {members₁ members₂ members₃ : MonitorMembers} {w₁ w₂ w₃ : World} {package : Option String}
    {monitor : String} (h : Makes scope place first members₁ w₁ members₂ w₂)
    (h' : Makes scope place rest members₂ w₂ members₃ w₃)
    (hscope : scope.qualifiedName = Source.qualify package monitor) (hmonitor : Undotted monitor)
    (hdots : ∀ name ∈ (first ++ rest).filterMap MonitorItem.name?, Undotted name)
    (hnames : ((first ++ rest).filterMap MonitorItem.name?).Nodup) :
    Makes scope place (first ++ rest) members₁ w₁ members₃ w₃ := by
  obtain ⟨more, hmore, hmapped, hbounds, hchanges⟩ := h.events
  obtain ⟨more', hmore', hmapped', hbounds', hchanges'⟩ := h'.events
  rw [List.filterMap_append] at hdots hnames
  have hdisjoint : ∀ a ∈ first.filterMap MonitorItem.name?, ∀ b ∈ rest.filterMap MonitorItem.name?,
      a ≠ b := (List.nodup_append.mp hnames).2.2
  refine ⟨(h.grows.mono fun _ howns => howns.mono (List.subset_append_left _ _)).trans
    (h'.grows.mono fun _ howns => howns.mono (List.subset_append_right _ _)),
    h'.monitors.trans h.monitors, ⟨more ++ more', ?added, ?mapped, ?bounds, ?changes⟩,
    ?handlers, ?others⟩
  case added =>
    rw [hmore', hmore, List.append_assoc]
  case mapped =>
    rw [List.map_append, hmapped, hmapped', List.filterMap_append]
  case bounds =>
    intro event hevent
    have hle := h.grows.length_le
    have hle' := h'.grows.length_le
    rcases List.mem_append.mp hevent with hevent | hevent
    · have hb := hbounds event hevent
      omega
    · have hb := hbounds' event hevent
      omega
  case changes =>
    intro event emitter specifier span hmem
    rcases List.mem_append.mp hmem with hmem | hmem
    · obtain ⟨source, hsource, htuned⟩ := hchanges event emitter specifier span hmem
      exact ⟨source, List.mem_append_left _ hsource,
        fun hw hfree => (htuned hw hfree).grows h'.grows⟩
    · obtain ⟨source, hsource, htuned⟩ := hchanges' event emitter specifier span hmem
      have hname : event ∈ rest.filterMap MonitorItem.name? :=
        List.mem_filterMap.mpr ⟨_, hmem, rfl⟩
      have hgrows := h.grows
      rw [hscope] at htuned hgrows ⊢
      exact ⟨source, List.mem_append_right _ hsource, fun hw hfree => htuned (h.grows.wired hw)
        (free_of_grows hmonitor hgrows
          (fun other hother => hdots other (List.mem_append_left _ (eventName?_mem_name? hother)))
          (hdots event (List.mem_append_right _ hname))
          (fun hin => hdisjoint event (eventName?_mem_name? hin) event hname rfl) hfree)⟩
  case handlers =>
    intro decl kind hmem hkind hinterval
    rcases List.mem_append.mp hmem with hmem | hmem
    · have hname : decl.name ∈ first.filterMap MonitorItem.name? :=
        List.mem_filterMap.mpr ⟨_, hmem, rfl⟩
      rw [h'.others decl.name fun hin => hdisjoint _ hname _ hin rfl]
      exact h.handlers decl kind hmem hkind hinterval
    · exact h'.handlers decl kind hmem hkind hinterval
  case others =>
    intro name hname
    rw [List.filterMap_append, List.mem_append, not_or] at hname
    rw [h'.others name hname.2, h.others name hname.1]

/-! ## Fields -/

/-- A source that was added for an event is what is made of it. -/
theorem makes_of_adds {scope : MonitorScope} (place : MonitorPlace) {event : String}
    {emitter : Source.Emitter} {span : Option Source.Span} (members : MonitorMembers) {w w' : World}
    (h : w.Adds (Owns scope.qualifiedName event) w')
    (htuned : ∀ chain specifier, emitter = .typed .change chain specifier → w.IsWired →
      (∀ c ∈ w.consumers, ¬ Owns scope.qualifiedName event c.config.queue) →
        IsTunedTo scope w' event chain specifier w.sources.length) :
    Makes scope place [.event ⟨event, emitter, span⟩] members w
      { members with events := members.events ++ [(event, w.sources.length)] } w' := by
  refine ⟨h.grows.mono fun queue howns => ⟨event, by simp [eventName?], howns⟩, h.monitors,
    ⟨[(event, w.sources.length)], rfl, by simp [eventName?], ?_, ?_⟩, by simp, fun _ _ => rfl⟩
  · intro entry hentry
    rw [List.mem_singleton.mp hentry]
    exact ⟨Nat.le_refl _, h.added⟩
  · intro name chain specifier span' hmem
    rw [List.mem_singleton] at hmem
    cases hmem
    exact ⟨_, List.mem_singleton.mpr rfl, htuned chain specifier rfl⟩

/-- The type of an event is linked to a source, and that of a change event to a tuned one. -/
theorem linkEvent_isTypeOf {scope : MonitorScope} {event : String} {emitter : Source.Emitter}
    {span : Option Source.Span} {t : Blueprint}
    (h : IsTypeOf scope (.event ⟨event, emitter, span⟩) t) (w : World) :
    ∃ w', linkEvent t w = (.ok w.sources.length, w') ∧
      w.Adds (Owns scope.qualifiedName event) w' ∧
      ∀ chain specifier, emitter = .typed .change chain specifier → w.IsWired →
        (∀ c ∈ w.consumers, ¬ Owns scope.qualifiedName event c.config.queue) →
          IsTunedTo scope w' event chain specifier w.sources.length := by
  cases h with
  | @change _ chain _ _ route _ _ _ hroute hpredicate =>
    have howns := owns_of_ofEmitter? hroute
    obtain ⟨filter, w', hlink, hadds, hpasses, htuned⟩ :=
      linkEvent_ofChange chain route w hpredicate howns
    refine ⟨w', hlink, hadds, ?_⟩
    rintro chain specifier ⟨⟩ hw hfree
    refine ⟨route, filter, hroute, htuned hw fun c hc heq => ?_, hpasses⟩
    exact hfree c hc (heq ▸ howns)
  | @probe _ occurrence chain _ hoccurrence =>
    have howns : Owns scope.qualifiedName event (scope.member event) := .inl rfl
    obtain ⟨w', hlink, hadds⟩ := linkEvent_ofProbe event occurrence.kind chain w howns
    refine ⟨w', hlink, hadds, ?_⟩
    rintro chain specifier ⟨⟩
    exact absurd rfl hoccurrence

/-- A handler that is entered under its name is what is made of it. -/
theorem makes_of_handler {scope : MonitorScope} (place : MonitorPlace) {decl : Source.HandlerDecl}
    {kind : EventKind} (hkind : EventKind.ofTypeName? decl.paramType = some kind)
    (members : MonitorMembers) (w : World) {handler : Handler}
    (hhandler : kind ≠ .interval → handler = .observer (observerOf scope place decl kind)) :
    Makes scope place [.handler decl] members w
      { members with handlers := Sorted.insert decl.name handler members.handlers } w := by
  refine ⟨.refl _ w, rfl, ⟨[], by simp [eventName?]⟩, ?_, ?_⟩
  · intro other otherKind hmem hother hinterval
    rw [List.mem_singleton] at hmem
    cases hmem
    rw [hkind] at hother
    cases hother
    rw [Sorted.lookup_insert_self, hhandler hinterval]
  · intro name hname
    have hne : name ≠ decl.name := by
      simpa [MonitorItem.name?] using hname
    exact Sorted.lookup_insert_of_ne _ _ hne

theorem linkHandler_ofHandler (scope : MonitorScope) (place : MonitorPlace)
    (decl : Source.HandlerDecl) (kind : EventKind) (w : World) :
    ∃ handler, linkHandler place (Blueprint.ofHandler scope decl kind) w = (.ok handler, w) ∧
      (kind ≠ .interval → handler = .observer (observerOf scope place decl kind)) := by
  by_cases hkind : kind = .interval
  · subst hkind
    exact ⟨_, rfl, fun hne => absurd rfl hne⟩
  · refine ⟨.observer (observerOf scope place decl kind), ?_, fun _ => rfl⟩
    have hadapter : (Blueprint.ofHandler scope decl kind).kind = .observerAdapter kind decl.name ∧
        (Blueprint.ofHandler scope decl kind).qualifiedName = scope.member decl.name := by
      unfold Blueprint.ofHandler
      simp [hkind]
    unfold linkHandler
    rw [hadapter.1, hadapter.2]
    rfl

section Fields

variable {package : Option String} {index : SpaceIndex} {decl : Source.Monitor} {b : Blueprint}
  (number : Nat) (bindings : Bindings)

/-- The field of a statement is made. -/
theorem addField_makes (h : IsLoweredFrom package index decl b)
    (htypes : (decl.body.filterMap (typeName? (monitorScope package index decl))).Nodup)
    {item : MonitorItem} (hitem : item ∈ decl.body)
    (hliteral : ∀ v, item = .variable v → v.initializer.IsLiteral) {field : Field}
    (hfield : fieldOf? (monitorScope package index decl) item = some field)
    (members : MonitorMembers) (w : World) :
    ∃ members' w', addField ⟨number, b, bindings⟩ members field w = (.ok members', w') ∧
      Makes (monitorScope package index decl) ⟨number, b, bindings⟩ [item] members w members' w' := by
  rcases item with v | ⟨event, cron | ⟨occurrence, chain, specifier⟩, span⟩ | handler | source
  · cases hfield
    obtain ⟨literal, hl⟩ := hliteral v rfl
    refine ⟨_, w, by unfold addField; simp only [hl]; rfl, ?_⟩
    exact ⟨.refl _ w, rfl, ⟨[], by simp [eventName?]⟩, by simp, fun _ _ => rfl⟩
  · cases hfield
    refine ⟨_, _, rfl, makes_of_adds _ members (World.adds_addSource _ w rfl rfl) ?_⟩
    intro chain specifier htyped
    cases htyped
  · cases hfield
    obtain ⟨t, hfound, hof⟩ := h.nested? htypes hitem rfl
    obtain ⟨w', hlink, hadds, htuned⟩ := linkEvent_isTypeOf hof w
    refine ⟨_, w', ?_, makes_of_adds _ members hadds htuned⟩
    unfold addField eventField
    simp only []
    rw [bind_of_ok (nestedType_of_some hfound w), bind_of_ok hlink]
    rfl
  · obtain ⟨kind, hkind, rfl⟩ := Option.map_eq_some_iff.mp hfield
    obtain ⟨t, hfound, hof⟩ := h.nested? htypes hitem (by simp only [typeName?, hkind]; rfl)
    cases hof with
    | handler hkind' =>
      rw [hkind] at hkind'
      cases hkind'
      obtain ⟨made, hlink, hmade⟩ := linkHandler_ofHandler (monitorScope package index decl)
        ⟨number, b, bindings⟩ handler kind w
      refine ⟨_, w, ?_, makes_of_handler _ hkind members w hmade⟩
      unfold addField
      simp only []
      rw [bind_of_ok (nestedType_of_some hfound w), bind_of_ok hlink]
      rfl
  · cases hfield

/-- The fields of some statements of a monitor are made one after the other. -/
theorem addFields_makes (h : IsLoweredFrom package index decl b)
    (htypes : (decl.body.filterMap (typeName? (monitorScope package index decl))).Nodup)
    (hliteral : ∀ v, .variable v ∈ decl.body → v.initializer.IsLiteral)
    (hmonitor : Undotted decl.name) {items : List MonitorItem}
    (hitems : ∀ item ∈ items, item ∈ decl.body)
    (hdots : ∀ name ∈ items.filterMap MonitorItem.name?, Undotted name)
    (hnames : (items.filterMap MonitorItem.name?).Nodup) (members : MonitorMembers) (w : World) :
    ∃ members' w', (items.filterMap (fieldOf? (monitorScope package index decl))).foldlM
        (addField ⟨number, b, bindings⟩) members w = (.ok members', w') ∧
      Makes (monitorScope package index decl) ⟨number, b, bindings⟩ items members w members' w' := by
  induction items generalizing members w with
  | nil =>
    exact ⟨members, w, rfl, .refl _ w, rfl, ⟨[], by simp⟩, by simp, fun _ _ => rfl⟩
  | cons item rest ih =>
    have hrest : ∀ name ∈ rest.filterMap MonitorItem.name?,
        name ∈ (item :: rest).filterMap MonitorItem.name? := by
      intro name hname
      obtain ⟨other, hother, heq⟩ := List.mem_filterMap.mp hname
      exact List.mem_filterMap.mpr ⟨other, List.mem_cons_of_mem _ hother, heq⟩
    have hnames' : (rest.filterMap MonitorItem.name?).Nodup := by
      rw [← List.singleton_append, List.filterMap_append] at hnames
      exact (List.nodup_append.mp hnames).2.1
    have hstep := ih (fun other hother => hitems other (List.mem_cons_of_mem _ hother))
      (fun name hname => hdots name (hrest name hname)) hnames'
    cases hfield : fieldOf? (monitorScope package index decl) item with
    | none =>
      rw [List.filterMap_cons_none hfield]
      obtain ⟨members', w', hfold, hmakes⟩ := hstep members w
      exact ⟨members', w', hfold,
        (makes_of_no_field _ hfield members w).append hmakes rfl hmonitor hdots hnames⟩
    | some field =>
      rw [List.filterMap_cons_some hfield, List.foldlM_cons]
      have hitem := hitems item List.mem_cons_self
      obtain ⟨members₁, w₁, hadd, hmakes₁⟩ := addField_makes number bindings h htypes hitem
        (fun v hv => hliteral v (hv ▸ hitem)) hfield members w
      obtain ⟨members', w', hfold, hmakes⟩ := hstep members₁ w₁
      exact ⟨members', w', (bind_of_ok hadd).trans hfold,
        hmakes₁.append hmakes rfl hmonitor hdots hnames⟩

theorem addField_usings (place : MonitorPlace) (usings : List String) (members : MonitorMembers)
    (w : World) : (usings.map usingField).foldlM (addField place) members w = (.ok members, w) := by
  induction usings with
  | nil => rfl
  | cons name rest ih =>
    rw [List.map_cons, List.foldlM_cons]
    exact (bind_of_ok rfl).trans ih

/-- The fields of a monitor are those of its statements: nothing is made of the namespaces that it
uses. -/
theorem foldlM_fields (h : IsLoweredFrom package index decl b) (place : MonitorPlace)
    (members : MonitorMembers) (w : World) :
    b.fields.foldlM (addField place) members w =
      (decl.body.filterMap (fieldOf? (monitorScope package index decl))).foldlM (addField place)
        members w := by
  rw [h.fields, List.foldlM_append, bind_of_ok (addField_usings _ _ _ _)]

end Fields

/-! ## Monitors -/

/-- A declared monitor whose members cannot be confused: names without dots, types with names of
their own, and values for all variables. -/
structure IsTidy (package : Option String) (index : SpaceIndex) (decl : Source.Monitor) : Prop where
  name : Undotted decl.name
  members : ∀ name ∈ decl.body.filterMap MonitorItem.name?, Undotted name
  types : (decl.body.filterMap (typeName? (monitorScope package index decl))).Nodup
  literals : ∀ v, .variable v ∈ decl.body → v.initializer.IsLiteral

/-- A monitor with a number that was linked from its declaration: the sources of its change events
are tuned, and its handlers are observers. -/
structure IsLinked (package : Option String) (index : SpaceIndex) (decl : Source.Monitor)
    (bindings : Bindings) (w : World) (number : Nat) (m : Monitor) : Prop where
  name : m.qualifiedName = Source.qualify package decl.name
  changes : ∀ event emitter specifier span,
    .event ⟨event, .typed .change emitter specifier, span⟩ ∈ decl.body →
      ∃ source, m.events.lookup event = some source ∧
        IsTunedTo (monitorScope package index decl) w event emitter specifier source
  handlers : ∀ handler kind, .handler handler ∈ decl.body →
    EventKind.ofTypeName? handler.paramType = some kind → kind ≠ .interval →
      ∃ observer : Observer, m.handlers.lookup handler.name = some (.observer observer) ∧
        observer.kind = kind ∧ observer.owner = some number ∧
          observer.react = bindings.reaction (Source.qualify package decl.name) number handler.name

theorem IsLinked.grows {package : Option String} {index : SpaceIndex} {decl : Source.Monitor}
    {bindings : Bindings} {w w' : World} {number : Nat} {m : Monitor} {own : String → Prop}
    (h : IsLinked package index decl bindings w number m) (hg : w.Grows own w') :
    IsLinked package index decl bindings w' number m := by
  refine ⟨h.name, ?_, h.handlers⟩
  intro event emitter specifier span hmem
  obtain ⟨source, hsource, htuned⟩ := h.changes event emitter specifier span hmem
  exact ⟨source, hsource, htuned.grows hg⟩

section Monitors

variable {package : Option String} {index : SpaceIndex} {decl : Source.Monitor} {b : Blueprint}

/-- The methods that a constructor calls are mild. -/
theorem isMild_of_find (h : IsLoweredFrom package index decl b) {name : String}
    (hpause : name ≠ "pause") (hresume : name ≠ "resume") {method : Method}
    (hfound : b.methods.find? (·.name == name) = some method) :
    ∀ stmt ∈ method.body, IsMild stmt := by
  obtain ⟨methods, hmethods, heq⟩ := h.methods
  have hname : method.name = name := by
    simpa using List.find?_some hfound
  have hmem := List.mem_of_find?_eq_some hfound
  rw [heq] at hmem
  simp only [List.mem_append, List.mem_cons, List.not_mem_nil, or_false] at hmem
  intro stmt hstmt
  rcases hmem with hmem | rfl | rfl | rfl
  · rcases hmethods method hmem with ⟨handler, kind, -, rfl⟩ | ⟨n, source, rfl⟩
    · rw [List.mem_singleton.mp hstmt]
      trivial
    · rw [List.mem_singleton.mp hstmt]
      trivial
  · obtain ⟨space, -, rfl⟩ := List.mem_map.mp hstmt
    trivial
  · exact absurd hname.symm hpause
  · exact absurd hname.symm hresume

/-- The monitor that its members make, before its constructor runs. -/
def newMonitor (b : Blueprint) (bindings : Bindings) (members : MonitorMembers)
    (registry : List (String × Handle)) : Monitor :=
  { qualifiedName := b.qualifiedName
    vars := members.vars
    events := members.events
    handlers := members.handlers
    methods := b.methods
    registry
    bindings }

/-- A new monitor is steered by its lowered methods. -/
theorem newMonitor_isSteered (h : IsLoweredFrom package index decl b)
    (hcheck : Members.checkMonitor index decl = .ok ()) (bindings : Bindings)
    {members : MonitorMembers} (registry : List (String × Handle))
    (hevents : members.events.map (·.1) = decl.body.filterMap eventName?) :
    (newMonitor b bindings members registry).IsSteered := by
  obtain ⟨hdistinct, hfree⟩ := names_of_checkMonitor hcheck
  have hbody : ∀ name ∈ decl.body.filterMap MonitorItem.name?,
      Naming.snake name ∉ Members.monitorReserved :=
    fun name hname => hfree name (List.mem_append_right _ hname)
  obtain ⟨-, hpause, hresume⟩ := h.find_method hbody
  refine ⟨?_, ?_, ?_⟩
  · unfold Monitor.method newMonitor
    simp only [hpause, hevents]
  · unfold Monitor.method newMonitor
    simp only [hresume, hevents]
  · have hnames : (decl.body.filterMap MonitorItem.name?).Nodup :=
      (List.nodup_append.mp (nodup_of_map hdistinct)).2.1
    show (members.events.map (·.1)).Nodup
    rw [hevents]
    exact nodup_eventNames hnames

/-- A new monitor without bound code has a plain constructor. -/
theorem newMonitor_isPlain (h : IsLoweredFrom package index decl b) {bindings : Bindings}
    (hcode : ∀ name index, bindings.code name index = none) (members : MonitorMembers)
    (registry : List (String × Handle)) {calls : List String}
    (hcalls : ∀ name ∈ calls, name ≠ "pause" ∧ name ≠ "resume") :
    (newMonitor b bindings members registry).IsPlain calls := by
  refine ⟨hcode, ?_⟩
  intro name hname method hmethod
  unfold Monitor.method at hmethod
  split at hmethod
  · rename_i found hfound
    cases hmethod
    exact isMild_of_find h (hcalls name hname).1 (hcalls name hname).2 hfound
  · cases hmethod

/-- The constructor of a new monitor ends well, and at most binds its namespaces. -/
theorem execute_newMonitor (h : IsLoweredFrom package index decl b) {bindings : Bindings}
    (hcode : ∀ name index, bindings.code name index = none) (members : MonitorMembers)
    (registry : List (String × Handle)) (w : World) :
    ∃ proxies failures, execute callDepth "" w.monitors.length b.constructor
        { w with monitors := w.monitors ++ [newMonitor b bindings members registry] } =
      (.ok (), { w with
        monitors := w.monitors ++ [{ newMonitor b bindings members registry with proxies }]
        failures }) := by
  generalize hnew : newMonitor b bindings members registry = new
  obtain ⟨blocks, hblocks, hconstructor⟩ := h.constructor
  have hcalls : ∀ name ∈ initializeMethod :: blocks, name ≠ "pause" ∧ name ≠ "resume" := by
    intro name hname
    rcases List.mem_cons.mp hname with rfl | hname
    · decide
    · obtain ⟨n, rfl⟩ := hblocks name hname
      exact ⟨numbered_code_ne n _ (by simp), numbered_code_ne n _ (by simp)⟩
  have hplain : ({ w with monitors := w.monitors ++ [new] } : World).IsPlainAt w.monitors.length
      (initializeMethod :: blocks) := by
    intro m hm
    have hlast : (w.monitors ++ [new])[w.monitors.length]? = some m := hm
    rw [List.getElem?_append_right (Nat.le_refl _), Nat.sub_self] at hlast
    cases hlast
    rw [← hnew]
    exact newMonitor_isPlain h hcode members registry hcalls
  obtain ⟨w', hrun, bind, failures, hbind, rfl⟩ := execute_constructor hplain ""
    (Naming.pascal decl.name ++ "::new")
  obtain ⟨proxies, hproxies⟩ := hbind new
  have hlast : (w.monitors ++ [new]).modify w.monitors.length bind =
      w.monitors ++ [{ new with proxies }] := by
    rw [List.modify_eq_take_drop, ← hproxies]
    simp
  refine ⟨proxies, failures, ?_⟩
  rw [hconstructor]
  refine hrun.trans ?_
  simp only [hlast]

theorem orElseUndo_of_ok {α : Type} {step : Link α} {undo : World → World} {w w' : World} {a : α}
    (h : step w = (.ok a, w')) : Link.orElseUndo step undo w = (.ok a, w') :=
  tryCatch_of_ok h

theorem orElseUndo_of_error {α : Type} {step : Link α} {undo : World → World} {w w' : World}
    {refusal : Refusal} (h : step w = (.error refusal, w')) :
    Link.orElseUndo step undo w = (.error refusal, undo w') :=
  (tryCatch_of_error h).trans rfl

/-- A checked monitor that is tidy is linked, where nobody else has the queues of its events. It
gets the next number, its events get sources of their own, and nothing that was there changes. -/
theorem linkMonitor_links (h : IsLoweredFrom package index decl b)
    (hcheck : Members.checkMonitor index decl = .ok ()) (htidy : IsTidy package index decl)
    {bindings : Bindings} (hcode : ∀ name index, bindings.code name index = none) {w : World}
    (hw : w.IsWired) (hfree : ∀ c ∈ w.consumers, ∀ event, Undotted event →
      ¬ Owns (Source.qualify package decl.name) event c.config.queue) :
    ∃ m w', linkMonitor bindings b w = (.ok w.monitors.length, w') ∧
      w.Grows (OwnsAny (Source.qualify package decl.name) decl.body) w' ∧
      w'.monitors = w.monitors ++ [m] ∧
      IsLinked package index decl bindings w' w.monitors.length m := by
  have hnames : (decl.body.filterMap MonitorItem.name?).Nodup :=
    (List.nodup_append.mp (nodup_of_map (names_of_checkMonitor hcheck).1)).2.1
  obtain ⟨members, w₁, hfields, hmakes⟩ := addFields_makes w.monitors.length bindings h htidy.types
    htidy.literals htidy.name (fun _ hitem => hitem) htidy.members hnames {} w
  have hfold : b.fields.foldlM (addField ⟨w.monitors.length, b, bindings⟩) {} w =
      (.ok members, w₁) := (foldlM_fields h _ {} w).trans hfields
  obtain ⟨proxies, failures, hrun⟩ := execute_newMonitor h hcode members w₁.spaces w₁
  obtain ⟨more, hmore, hmapped, hbounds, hchanges⟩ := hmakes.events
  have hevents : members.events = more := hmore
  have hsteered := newMonitor_isSteered h hcheck bindings w₁.spaces
    ((congrArg (List.map (·.1)) hevents).trans hmapped)
  have hfresh : ({ newMonitor b bindings members w₁.spaces with proxies } : Monitor).IsFresh
      w.sources.length w₁.sources.length := by
    refine ⟨⟨hsteered.pauses, hsteered.resumes, hsteered.names⟩, rfl, rfl, fun event hevent => ?_⟩
    apply hbounds
    rw [← hevents]
    exact hevent
  refine ⟨{ newMonitor b bindings members w₁.spaces with proxies }, _, ?_,
    hmakes.grows.addMonitor hmakes.monitors hfresh failures, ?_, h.qualifiedName, ?_, ?_⟩
  · unfold linkMonitor
    simp only [h.kind, ne_eq, not_true_eq_false, if_false]
    rw [get_bind, bind_of_ok (orElseUndo_of_ok hfold), modify_bind, ← hmakes.monitors]
    exact bind_of_ok (orElseUndo_of_ok (Link.ofRun_of_ok hrun))
  · rw [hmakes.monitors]
  · intro event emitter specifier span hmem
    obtain ⟨source, hsource, htuned⟩ := hchanges event emitter specifier span hmem
    have hname : Undotted event := htidy.members event (List.mem_filterMap.mpr ⟨_, hmem, rfl⟩)
    refine ⟨source, ?_, ?_⟩
    · apply hsteered.lookup (event, source)
      show (event, source) ∈ members.events
      rw [hevents]
      exact hsource
    · obtain ⟨route, filter, hroute, ⟨htrigger, hconsumer⟩, hpasses⟩ :=
        htuned hw fun c hc => hfree c hc event hname
      exact ⟨route, filter, hroute, ⟨htrigger, hconsumer⟩, hpasses⟩
  · intro handler kind hmem hkind hinterval
    refine ⟨_, hmakes.handlers handler kind hmem hkind hinterval, rfl, rfl, ?_⟩
    show bindings.reaction b.qualifiedName _ _ = _
    rw [h.qualifiedName]

end Monitors

/-! ## Monitors one after the other -/

/-- Blueprints of other kinds are passed over. -/
theorem linkMonitors_cons_of_other {b : Blueprint} (hkind : b.kind ≠ .monitor)
    (bindings : Bindings) (bs : List Blueprint) :
    linkMonitors bindings (b :: bs) = linkMonitors bindings bs := by
  rw [linkMonitors, if_neg hkind]

/-- Where a monitor is linked and then the others, all of them are. -/
theorem linkMonitors_cons_of_ok {b : Blueprint} (hkind : b.kind = .monitor) {bindings : Bindings}
    {bs : List Blueprint} {number : Nat} {others : List Nat} {w w₁ w' : World}
    (hfirst : linkMonitor bindings b w = (.ok number, w₁))
    (hrest : linkMonitors bindings bs w₁ = (.ok others, w')) :
    linkMonitors bindings (b :: bs) w = (.ok (number :: others), w') := by
  rw [linkMonitors, if_pos hkind, bind_of_ok hfirst, bind_of_ok (orElseUndo_of_ok hrest)]
  rfl

end Watchtower.Linking
