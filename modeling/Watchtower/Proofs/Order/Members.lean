-- The members of a monitor in whatever world it is linked. The queues of its events are free, so
-- each event gets a source with the consumer, and the probe, that it asks for, and nothing fails.
-- What is seen of the members does not depend on what else was linked.
import Watchtower.Proofs.Linking.Provision
import Watchtower.Proofs.Order.Views

namespace Watchtower

open Source (MonitorItem EventDecl)

namespace Live.World

/-! ## New sources -/

/-- A source without a consumer that gets one looks so. -/
theorem showsSource_tune {w : World} {number : Nat} {name : String} {trigger : Trigger}
    {probe : Option String} (hs : w.sources[number]? = some { name, trigger, probe })
    (hprobe : ∀ key, probe = some key → w.probes.isRunning? key = some true)
    (config : ConsumerConfig) :
    (w.tune number config).ShowsSource number ⟨name, trigger, probe, some config⟩ := by
  refine ⟨⟨some w.consumers.length, by simp [tune, hs], fun given hgiven => ?_, nofun⟩, hprobe⟩
  cases hgiven
  exact ⟨_, rfl, w.nextConsumer number config, List.getElem?_concat_length, rfl, rfl, rfl⟩

/-- What comes of a new source whose probe is opened. -/
structure OpensNew (s : Source) (key : String) (w w' : World) : Prop where
  source : w'.sources[w.sources.length]? = some { s with probe := some key }
  adds : w.Adds (fun _ => True) w'
  probes : ∀ other, w'.probes.isRunning? other =
    if other = key then some true else w.probes.isRunning? other
  bus : w'.bus = w.bus
  consumers : w'.consumers = w.consumers
  stores : w'.stores = w.stores
  monitors : w'.monitors = w.monitors
  failures : w'.failures = w.failures

/-- The probe of a new source can be opened. -/
theorem openProbe_addSource (w : World) {s : Source} {key : String} (hkey : key ≠ "")
    (hprobe : s.probe = none) (hobservers : s.observers = []) (hpaused : s.paused = false) :
    ∃ w', (w.addSource s).2.openProbe w.sources.length key = (.ok (), w') ∧
      OpensNew s key w w' := by
  have hrunning := (w.addSource s).2.isRunning_openProbe w.sources.length key
  have hadds := (adds_addSource (fun _ => True) w hobservers hpaused).openProbe key
  have hopens : ∃ probes, (w.addSource s).2.openProbe w.sources.length key =
      (.ok (), { (w.addSource s).2 with
        probes
        sources := (w.addSource s).2.sources.modify w.sources.length
          fun s => { s with probe := some key } }) := by
    unfold openProbe
    cases hopen : (w.addSource s).2.probes.open_ key with
    | error fault =>
      unfold Probes.open_ at hopen
      rw [if_neg (by simpa using hkey)] at hopen
      split at hopen <;> cases hopen
    | ok probes =>
      refine ⟨probes.setRunning key true, ?_⟩
      simp [addSource, hprobe, modifySource]
  obtain ⟨probes, hopened⟩ := hopens
  rw [hopened] at hrunning hadds
  simp only [hkey, ne_eq, not_false_eq_true, and_true] at hrunning
  exact ⟨_, hopened, by simp [addSource], hadds, hrunning, rfl, rfl, rfl, rfl, rfl⟩

theorem staysIn_addSource (w : World) (s : Source) : w.StaysIn (w.addSource s).2 := by
  refine ⟨⟨fun number s' hs' => ?_, fun _ _ h => h, fun _ h => h⟩, rfl, rfl, rfl, fun _ _ h => h⟩
  show (w.sources ++ [s])[number]? = some s'
  rw [List.getElem?_append_left (List.getElem?_eq_some_iff.mp hs').1, hs']

end Live.World

namespace Linking

open Live

/-! ## Events -/

/-- The filter of a change event is linked in every world, and is the same in all. -/
theorem filterOf_eq_ok {scope : MonitorScope} {names names' : NameSupply} {name : String}
    {specifier : Option Source.Specifier} {predicate : Option Blueprint} (emitter : Source.Expr)
    (route : Route)
    (h : predicateType scope names name specifier = .ok (predicate, names')) :
    ∃ filter, ∀ w, filterOf (Blueprint.ofChange scope name emitter route predicate) w =
      (.ok filter, w) := by
  have hsame : ∀ b : Blueprint, ∃ outcome, ∀ w, filterOf b w = (outcome, w) := by
    intro b
    unfold filterOf nestedType
    cases b.fields.findSome? _ with
    | none => exact ⟨_, fun _ => rfl⟩
    | some type =>
      dsimp only
      cases b.nested? type with
      | none => exact ⟨_, fun _ => rfl⟩
      | some t =>
        have hlinked : ∀ w, linkFilter t w = ((linkFilter t {}).1, w) := by
          intro w
          unfold linkFilter
          rcases (t.method? "test").map Method.body with _ | _ | ⟨stmt, _ | _⟩
          · rfl
          · rfl
          · cases stmt <;> rfl
          · cases stmt <;> rfl
        generalize (linkFilter t {}).1 = outcome at hlinked
        refine ⟨outcome.map some, fun w => ?_⟩
        have hfound : Link.require b.qualifiedName
            ("nested type '" ++ type ++ "' is missing") (some t) w = (.ok t, w) := rfl
        rw [bind_of_ok hfound]
        cases outcome with
        | ok filter => exact bind_of_ok (hlinked w)
        | error refusal => exact bind_of_error (hlinked w)
  obtain ⟨outcome, houtcome⟩ := hsame (Blueprint.ofChange scope name emitter route predicate)
  obtain ⟨filter, hfilter, -⟩ := filterOf_ofChange emitter route {} h
  rw [houtcome] at hfilter
  cases hfilter
  exact ⟨filter, houtcome⟩

/-- What comes of a new source in a world: the next one looks like this, and nothing was
recorded. -/
structure AddsSource (v : SourceView) (w w' : World) : Prop where
  stays : w.StaysIn w'
  monitors : w'.monitors = w.monitors
  failures : w'.failures = w.failures
  looks : w'.ShowsSource w.sources.length v

/-- What is seen of the source of a change event. -/
def changeView (scope : MonitorScope) (name : String) (route : Route)
    (filter : Option ChangeFilter) : SourceView where
  name := Text.lastDotted (scope.member name)
  trigger := .change route.routingKey route.variablePath filter
  probe := none
  consumer := some (routeConfig route)

/-- What is seen of the source of an event that a probe raises. -/
def probeView (scope : MonitorScope) (name : String) (kind : EventKind) (emitter : Source.Expr) :
    SourceView where
  name := Text.lastDotted (scope.member name)
  trigger := .probe kind emitter.text
  probe := some (scope.member name)
  consumer := some (probeConfig (scope.member name))

section Events

variable {scope : MonitorScope} {listed : List Binding} {w : World}

/-- A change event gets a source that looks as declared, where its queue is free. -/
theorem linkEvent_ofChange_shows {name : String} {emitter : Source.Expr} {route : Route}
    {predicate : Option Blueprint} {filter : Option ChangeFilter}
    (hfilter : filterOf (Blueprint.ofChange scope name emitter route predicate) w =
      (.ok filter, w))
    (hw : w.Provides True listed) (hfree : route.queue ∉ listed.map (·.queue)) :
    ∃ w', linkEvent (Blueprint.ofChange scope name emitter route predicate) w =
        (.ok w.sources.length, w') ∧
      AddsSource (changeView scope name route filter) w w' := by
  obtain ⟨w', hlink, hconsume⟩ := linkEvent_of_filter hfilter
  have hadded : (w.addSource (changeSource scope name route filter)).2.sources[w.sources.length]? =
      some (changeSource scope name route filter) := List.getElem?_concat_length
  have hprovides : (w.addSource (changeSource scope name route filter)).2.Provides True listed :=
    hw.congr rfl rfl
  have hadds := World.adds_addSource (fun _ => True) w (s := changeSource scope name route filter)
    rfl rfl
  cases hprovides.eq_tune hadded rfl hfree hconsume
  refine ⟨_, hlink, ?_, rfl, rfl, World.showsSource_tune hadded nofun _⟩
  exact (hadds.grows.tune (Nat.le_refl _) hadds.added trivial).staysIn rfl fun _ h => h

/-- An event that a probe raises gets a source that looks as declared, where its queue is free. -/
theorem linkEvent_ofProbe_shows (name : String) (kind : EventKind) (emitter : Source.Expr)
    (hw : w.Provides True listed) (hfree : scope.member name ∉ listed.map (·.queue)) :
    ∃ w', linkEvent (Blueprint.ofProbe scope name kind emitter) w =
        (.ok w.sources.length, w') ∧
      AddsSource (probeView scope name kind emitter) w w' := by
  have hkey : scope.member name ≠ "" := by simp [MonitorScope.member]
  obtain ⟨w₁, hopened, hnew⟩ := w.openProbe_addSource (s := probeSource scope name kind emitter)
    hkey rfl rfl rfl
  -- The statement of the constructor that opens the probe ends well.
  have hstmt : Link.ofRun (scope.member name) (Run.guarded (eventSite scope name)
      ([Stmt.openProbe (scope.member name)].forM (wireStmt w.sources.length true)))
        (w.addSource (probeSource scope name kind emitter)).2 = (.ok (some ()), w₁) := by
    have hopens : ∀ w₂ : World, wireStmt w.sources.length true (.openProbe (scope.member name)) w₂ =
        Run.ofExcept (w₂.openProbe w.sources.length (scope.member name)).1
          (w₂.openProbe w.sources.length (scope.member name)).2 := fun _ => rfl
    have hends := hopens (w.addSource (probeSource scope name kind emitter)).2
    rw [hopened] at hends
    exact Link.ofRun_of_ok (Run.guarded_of_ok ((forM_cons_of_ok hends).trans rfl))
  obtain ⟨w', hlink, hconsume⟩ := linkEvent_of_opened hstmt
  have hprovides : w₁.Provides True listed := hw.congr (by rw [hnew.bus]) hnew.consumers
  cases hprovides.eq_tune hnew.source rfl hfree hconsume
  have hgrows : w.Grows (fun _ => True)
      (w₁.tune w.sources.length (probeConfig (scope.member name))) :=
    hnew.adds.grows.tune (Nat.le_refl _) hnew.adds.added trivial
  refine ⟨_, hlink, hgrows.staysIn hnew.stores fun other hother => ?_, hnew.monitors,
    hnew.failures, World.showsSource_tune hnew.source (fun other hother => ?_) _⟩
  · show w₁.probes.isRunning? other = some true
    rw [hnew.probes]
    split
    · rfl
    · exact hother
  · cases hother
    rw [hnew.probes, if_pos rfl]

/-- The type of an event is linked to a source that looks the same wherever the queue of the event
is free. -/
theorem linkEvent_shows {event : EventDecl} {t : Blueprint} (h : IsTypeOf scope (.event event) t) :
    ∃ v, ∀ {listed : List Binding} {w : World}, w.Provides True listed →
      (∀ r, (EventEntry.ofDeclared scope event).binding = some r →
        r.queue ∉ listed.map (·.queue)) →
      ∃ w', linkEvent t w = (.ok w.sources.length, w') ∧ AddsSource v w w' := by
  cases h with
  | @change name emitter specifier span route _ _ predicate hroute hpredicate =>
    obtain ⟨filter, hfilter⟩ := filterOf_eq_ok emitter route hpredicate
    refine ⟨changeView scope name route filter, fun {listed w} hw hfree => ?_⟩
    rw [binding_of_change hroute] at hfree
    exact linkEvent_ofChange_shows (hfilter w) hw (hfree _ rfl)
  | @probe name occurrence emitter span hoccurrence =>
    refine ⟨probeView scope name occurrence.kind emitter, fun {listed w} hw hfree => ?_⟩
    rw [binding_of_probe hoccurrence] at hfree
    exact linkEvent_ofProbe_shows name occurrence.kind emitter hw (hfree _ rfl)

end Events

/-! ## Members -/

/-- A handler is linked by a plan that does not depend on the place. -/
theorem linkHandler_shows (scope : MonitorScope) (decl : Source.HandlerDecl) (kind : EventKind) :
    ∃ plan : HandlerPlan, ∀ (place : MonitorPlace) (w : World),
      linkHandler place (Blueprint.ofHandler scope decl kind) w =
        (.ok (plan.handler place.bindings place.blueprint.qualifiedName place.number), w) := by
  have hkind := kind_ofHandler scope decl kind
  unfold linkHandler
  by_cases hinterval : kind = .interval
  · rw [if_pos hinterval] at hkind
    rw [hkind]
    exact ⟨.job decl.name, fun _ _ => rfl⟩
  · rw [if_neg hinterval] at hkind
    rw [hkind]
    exact ⟨.observer _ kind decl.name, fun _ _ => rfl⟩

/-- The members of the monitor at a place look like this. -/
structure MonitorMembers.LookLike (members : MonitorMembers) (place : MonitorPlace) (w : World)
    (v : MembersView) : Prop where
  vars : members.vars = v.vars
  events : w.ShowsEvents members.events v.events
  handlers : members.handlers =
    handlersOf place.bindings place.blueprint.qualifiedName place.number v.handlers

/-- What comes of a step that makes members in a world: they look like this, and nothing was
recorded. -/
structure MakesMembers (place : MonitorPlace) (v : MembersView) (w : World)
    (members : MonitorMembers) (w' : World) : Prop where
  stays : w.StaysIn w'
  monitors : w'.monitors = w.monitors
  failures : w'.failures = w.failures
  looks : members.LookLike place w' v

theorem insert_map_snd {α β : Type} (f : α → β) (name : String) (value : α)
    (table : List (String × α)) :
    Sorted.insert name (f value) (table.map fun e => (e.1, f e.2)) =
      (Sorted.insert name value table).map fun e => (e.1, f e.2) := by
  induction table with
  | nil => rfl
  | cons entry rest ih =>
    obtain ⟨key, old⟩ := entry
    rw [List.map_cons, Sorted.insert, Sorted.insert, ih]
    split
    · rfl
    · split <;> rfl

/-- A source that was added is one more event among the members. -/
theorem AddsSource.makesMembers {v : SourceView} {w w' : World} (h : AddsSource v w w')
    {members : MonitorMembers} {place : MonitorPlace} {views : MembersView}
    (hlooks : members.LookLike place w views) (event : String) :
    MakesMembers place { views with events := views.events ++ [(event, v)] } w
      { members with events := members.events ++ [(event, w.sources.length)] } w' := by
  refine ⟨h.stays, h.monitors, h.failures, hlooks.vars, ?_, hlooks.handlers⟩
  exact List.rel_append (hlooks.events.stays h.stays.toKeepsSources) (.cons ⟨rfl, h.looks⟩ .nil)

/-- Where the queue that a field binds is free, the field makes members that look like this of
members that look like that. -/
def MakesAs (b : Blueprint) (bindings : Bindings) (field : Field) (bound : Option Binding)
    (v v' : MembersView) : Prop :=
  ∀ {number : Nat} {listed : List Binding} {w : World} {members : MonitorMembers},
    w.Provides True listed → (∀ r, bound = some r → r.queue ∉ listed.map (·.queue)) →
    members.LookLike ⟨number, b, bindings⟩ w v →
    ∃ members' w', addField ⟨number, b, bindings⟩ members field w = (.ok members', w') ∧
      MakesMembers ⟨number, b, bindings⟩ v' w members' w'

section Fields

variable {package : Option String} {index : SpaceIndex} {decl : Source.Monitor} {b : Blueprint}
  {bindings : Bindings} {scope : MonitorScope} {field : Field} {bound : Option Binding}

/-- A variable with a literal is one more variable among the members. -/
theorem makesAs_variable {x : Source.Variable}
    (hfield : fieldOf? scope (.variable x) = some field) (hliteral : x.initializer.IsLiteral)
    (v : MembersView) : ∃ v', MakesAs b bindings field bound v v' := by
  cases hfield
  obtain ⟨literal, hl⟩ := hliteral
  refine ⟨{ v with vars := Sorted.insert x.name ⟨literal.value, !x.writable⟩ v.vars },
    fun {number listed w members} _ _ hlooks => ?_⟩
  refine ⟨{ members with
    vars := Sorted.insert x.name ⟨literal.value, !x.writable⟩ members.vars }, w, ?_, .refl w, rfl,
    rfl, ?_, hlooks.events, hlooks.handlers⟩
  · unfold addField
    simp only [hl]
    rfl
  · show Sorted.insert _ _ members.vars = _
    rw [hlooks.vars]

/-- An event of a schedule is one more event among the members, and binds no queue. -/
theorem makesAs_periodic {event cron : String} {span : Option Source.Span}
    (hfield : fieldOf? scope (.event ⟨event, .periodic cron, span⟩) = some field)
    (v : MembersView) : ∃ v', MakesAs b bindings field bound v v' := by
  cases hfield
  refine ⟨{ v with events := v.events ++ [(event, ⟨event, .schedule cron, none, none⟩)] },
    fun {number listed w members} _ _ hlooks => ⟨_, _, rfl, ?_⟩⟩
  have hadds : AddsSource ⟨event, .schedule cron, none, none⟩ w
      (w.addSource { name := event, trigger := .schedule cron }).2 :=
    ⟨w.staysIn_addSource _, rfl, rfl, ⟨none, List.getElem?_concat_length, nofun, fun _ => rfl⟩,
      nofun⟩
  exact hadds.makesMembers hlooks event

/-- An event of a type of its own is one more event among the members. -/
theorem makesAs_event {event : EventDecl} {type : String} {t : Blueprint}
    (hfound : b.nested? type = some t) (hof : IsTypeOf scope (.event event) t) (v : MembersView) :
    ∃ v', MakesAs b bindings (eventField event.name type)
      (EventEntry.ofDeclared scope event).binding v v' := by
  obtain ⟨view, hshows⟩ := linkEvent_shows hof
  refine ⟨{ v with events := v.events ++ [(event.name, view)] },
    fun {number listed w members} hw hfree hlooks => ?_⟩
  obtain ⟨w', hlink, hadds⟩ := hshows hw hfree
  refine ⟨_, w', ?_, hadds.makesMembers hlooks event.name⟩
  unfold addField eventField
  simp only []
  rw [bind_of_ok (nestedType_of_some hfound w), bind_of_ok hlink]
  rfl

/-- A handler is one more handler among the members, made by the same plan everywhere. -/
theorem makesAs_handler {handler : Source.HandlerDecl} {kind : EventKind}
    (hkind : EventKind.ofTypeName? handler.paramType = some kind)
    (hfield : fieldOf? scope (.handler handler) = some field)
    (hfound : b.nested? (Blueprint.ofHandler scope handler kind).name =
      some (Blueprint.ofHandler scope handler kind)) (v : MembersView) :
    ∃ v', MakesAs b bindings field bound v v' := by
  obtain ⟨kind', hkind', rfl⟩ := Option.map_eq_some_iff.mp hfield
  cases hkind.symm.trans hkind'
  obtain ⟨plan, hplan⟩ := linkHandler_shows scope handler kind
  refine ⟨{ v with handlers := Sorted.insert handler.name plan v.handlers },
    fun {number listed w members} _ _ hlooks => ?_⟩
  generalize hmade : plan.handler bindings b.qualifiedName number = made
  refine ⟨{ members with handlers := Sorted.insert handler.name made members.handlers }, w, ?_,
    .refl w, rfl, rfl, hlooks.vars, hlooks.events, ?_⟩
  · unfold addField
    simp only []
    rw [bind_of_ok (nestedType_of_some hfound w), bind_of_ok (hplan _ w), ← hmade]
    rfl
  · show Sorted.insert _ _ members.handlers = _
    rw [hlooks.handlers, ← hmade]
    exact insert_map_snd _ _ _ _

/-- The field of a statement makes members that look the same wherever the queue of the statement
is free. -/
theorem addField_shows (h : IsLoweredFrom package index decl b)
    (htypes : (decl.body.filterMap (typeName? (monitorScope package index decl))).Nodup)
    (bindings : Bindings) {item : MonitorItem} (hitem : item ∈ decl.body)
    (hliteral : ∀ v, item = .variable v → v.initializer.IsLiteral)
    (hfield : fieldOf? (monitorScope package index decl) item = some field) (v : MembersView) :
    ∃ v', MakesAs b bindings field (bindingOf? (monitorScope package index decl) item) v v' := by
  rcases item with x | ⟨event, cron | ⟨occurrence, chain, specifier⟩, span⟩ | handler | source
  · exact makesAs_variable hfield (hliteral x rfl) v
  · exact makesAs_periodic hfield v
  · cases hfield
    obtain ⟨t, hfound, hof⟩ := h.nested? htypes hitem rfl
    exact makesAs_event hfound hof v
  · obtain ⟨kind, hkind, -⟩ := Option.map_eq_some_iff.mp hfield
    obtain ⟨t, hfound, hof⟩ := h.nested? htypes hitem (by simp only [typeName?, hkind]; rfl)
    cases hof with
    | handler hkind' =>
      cases hkind.symm.trans hkind'
      exact makesAs_handler hkind hfield hfound v
  · cases hfield

/-- The fields of statements make members that look the same wherever the queues are free. -/
theorem addFields_show (h : IsLoweredFrom package index decl b)
    (htypes : (decl.body.filterMap (typeName? (monitorScope package index decl))).Nodup)
    (bindings : Bindings) {items : List MonitorItem} (hitems : ∀ item ∈ items, item ∈ decl.body)
    (hliterals : ∀ v, .variable v ∈ decl.body → v.initializer.IsLiteral) (v : MembersView) :
    ∃ v', ∀ {number : Nat} {listed : List Binding} {w : World} {members : MonitorMembers},
      w.Provides True listed →
      ((listed ++ items.filterMap (bindingOf? (monitorScope package index decl))).map
        (·.queue)).Nodup →
      members.LookLike ⟨number, b, bindings⟩ w v →
      ∃ members' w', (items.filterMap (fieldOf? (monitorScope package index decl))).foldlM
          (addField ⟨number, b, bindings⟩) members w = (.ok members', w') ∧
        MakesMembers ⟨number, b, bindings⟩ v' w members' w' := by
  -- On the statements. What is made of the first is in the way of none of the others.
  induction items generalizing v with
  | nil => exact ⟨v, fun {_ _ w _} _ _ hlooks => ⟨_, w, rfl, .refl w, rfl, rfl, hlooks⟩⟩
  | cons item rest ih =>
    have hitem := hitems item List.mem_cons_self
    have hrest : ∀ other ∈ rest, other ∈ decl.body :=
      fun other hother => hitems other (List.mem_cons_of_mem _ hother)
    cases hfield : fieldOf? (monitorScope package index decl) item with
    | none =>
      rw [List.filterMap_cons_none hfield, List.filterMap_cons_none (bindingOf?_of_no_field hfield)]
      exact ih hrest v
    | some field =>
      obtain ⟨v₁, hfirst⟩ := addField_shows h htypes bindings hitem
        (fun x hx => hliterals x (hx ▸ hitem)) hfield v
      obtain ⟨v', hothers⟩ := ih hrest v₁
      refine ⟨v', fun {number listed w members} hw hqueues hlooks => ?_⟩
      rw [filterMap_cons_eq_append, ← List.append_assoc] at hqueues
      have hfree : ∀ r, bindingOf? (monitorScope package index decl) item = some r →
          r.queue ∉ listed.map (·.queue) := by
        intro r hr hmem
        rw [hr, List.map_append, List.map_append] at hqueues
        exact (List.nodup_append.mp (List.nodup_append.mp hqueues).1).2.2 _ hmem r.queue
          List.mem_cons_self rfl
      obtain ⟨members₁, w₁, hadd, hmakes⟩ := hfirst hw hfree hlooks
      have hprovides := (addField_eq_ok h hfield hadd).provides (areOwnNamesakes_of_nodup htypes)
        hitem hw hfree
      obtain ⟨members', w', hfold, hmakes'⟩ := hothers hprovides hqueues hmakes.looks
      refine ⟨members', w', ?_, hmakes.stays.trans hmakes'.stays,
        hmakes'.monitors.trans hmakes.monitors, hmakes'.failures.trans hmakes.failures,
        hmakes'.looks⟩
      rw [List.filterMap_cons_some hfield, List.foldlM_cons, bind_of_ok hadd]
      exact hfold

end Fields

end Linking

end Watchtower
