-- What the manifest provides for. The linker starts the consumers of events while it runs their
-- constructors, and the manifest lists them by reading these. Both come to the same bindings: each
-- is listed that is made, once, and each is made that is listed.
import Watchtower.Proofs.Blueprint.Bindings
import Watchtower.Proofs.Linking.Probing
import Watchtower.Proofs.Live.Provision

namespace Watchtower.Linking

open Live
open Source (MonitorItem EventDecl SourceUnit)

/-! ## Events -/

/-- Each event of a monitor is its own namesake, so its type is found under its name. -/
def AreOwnNamesakes (body : List MonitorItem) : Prop :=
  ∀ event, .event event ∈ body → namesake body event = event

theorem areOwnNamesakes_of_eventTypes {scope : MonitorScope} {body : List MonitorItem}
    (htypes : (body.filterMap (eventType? scope)).Nodup) : AreOwnNamesakes body := by
  rintro ⟨name, cron | ⟨occurrence, emitter, specifier⟩, span⟩ hevent
  · rfl
  · apply namesake_eq_self
    rintro ⟨other, cron | ⟨occurrence', emitter', specifier'⟩, span'⟩ hother hsame
    · cases hsame
    · have hname : eventType? scope (.event ⟨other, .typed occurrence' emitter' specifier', span'⟩) =
          some (scope.nestedName name "Event") :=
        beq_iff_eq.mp ((typeName?_beq_event scope _ _).trans hsame)
      exact MonitorItem.event.inj (eq_of_nodup_filterMap htypes hother hevent hname rfl)

/-- Where the types have distinct names, those of the events have. -/
theorem areOwnNamesakes_of_nodup {scope : MonitorScope} {body : List MonitorItem}
    (htypes : (body.filterMap (typeName? scope)).Nodup) : AreOwnNamesakes body := by
  refine areOwnNamesakes_of_eventTypes (?_ : (body.filterMap (eventType? scope)).Nodup)
  rw [List.nodup_iff_pairwise_ne, List.pairwise_filterMap] at htypes ⊢
  have htyped : ∀ {item : MonitorItem} {type : String}, eventType? scope item = some type →
      typeName? scope item = some type := by
    intro item type htype
    rcases item with v | ⟨event, cron | ⟨occurrence, chain, specifier⟩, span⟩ | handler | source
    · cases htype
    · cases htype
    · exact htype
    · cases htype
    · cases htype
  exact htypes.imp fun hne type htype type' htype' => hne type (htyped htype) type' (htyped htype')

theorem binding_of_probe {scope : MonitorScope} {name : String} {occurrence : Source.Occurrence}
    (h : occurrence ≠ .change) (emitter : Source.Expr) (specifier : Option Source.Specifier)
    (span : Option Source.Span) :
    (EventEntry.ofDeclared scope ⟨name, .typed occurrence emitter specifier, span⟩).binding =
      some (probeConfig (scope.member name)).listed := by
  cases occurrence with
  | change => exact absurd rfl h
  | _ => rfl

theorem binding_of_change {scope : MonitorScope} {name : String} {emitter : Source.Expr}
    {route : Route} (h : Route.ofEmitter? scope.qualifiedName name emitter scope.index = some route)
    (specifier : Option Source.Specifier) (span : Option Source.Span) :
    (EventEntry.ofDeclared scope ⟨name, .typed .change emitter specifier, span⟩).binding =
      some (routeConfig route).listed := by
  unfold EventEntry.ofDeclared
  simp only [h, Option.map_some]
  rfl

section Events

variable {calm : Prop} {listed : List Binding} {w w' : World}

/-- The type of an event is linked to a source with the consumer that is listed for the event. -/
theorem linkEvent_provides {scope : MonitorScope} {event : EventDecl} {t : Blueprint}
    (h : IsTypeOf scope (.event event) t) {number : Nat}
    (hlink : linkEvent t w = (.ok number, w')) (hw : w.Provides calm listed)
    (hfree : ∀ r, (EventEntry.ofDeclared scope event).binding = some r →
      r.queue ∉ listed.map (·.queue)) :
    w'.Provides calm (listed ++ (EventEntry.ofDeclared scope event).binding.toList) := by
  cases h with
  | @change name emitter specifier span route _ _ predicate hroute hpredicate =>
    rw [binding_of_change hroute] at hfree ⊢
    obtain ⟨filter, w₁, hlink', -, hconsume⟩ :=
      linkEvent_ofChange_eq emitter route w hpredicate
    cases hlink.symm.trans hlink'
    have hadded : (w.addSource (changeSource scope name route filter)).2.Provides calm listed :=
      hw.congr rfl rfl
    exact hadded.consume List.getElem?_concat_length rfl (hfree _ rfl) hconsume
  | @probe name occurrence emitter span hoccurrence =>
    rw [binding_of_probe hoccurrence] at hfree ⊢
    obtain ⟨w₁, w₂, hlink', hprobe, hconsume⟩ :=
      linkEvent_ofProbe_eq scope name occurrence.kind emitter w
    cases hlink.symm.trans hlink'
    obtain ⟨hbus, hconsumers, s₁, hs₁, hsame⟩ := addSource_opened hprobe
    have hopened : w₁.Provides calm listed := hw.congr (congrArg Bus.bindings hbus) hconsumers
    exact hopened.consume hs₁ (congrArg (·.2.2) hsame) (hfree _ rfl) hconsume

end Events

/-! ## Monitors -/

section Monitors

variable {calm : Prop} {listed : List Binding} {w w' : World} {package : Option String}
  {index : SpaceIndex} {decl : Source.Monitor} {b : Blueprint} {bindings : Bindings}

/-- What is made of a statement provides for the binding that is listed for it. -/
theorem Made.provides {place : MonitorPlace} (hown : AreOwnNamesakes decl.body)
    {item : MonitorItem} (hitem : item ∈ decl.body) {members members' : MonitorMembers}
    (h : Made package index decl place item members w members' w') (hw : w.Provides calm listed)
    (hfree : ∀ r, bindingOf? (monitorScope package index decl) item = some r →
      r.queue ∉ listed.map (·.queue)) :
    w'.Provides calm (listed ++ (bindingOf? (monitorScope package index decl) item).toList) := by
  cases h with
  | value v value =>
    rw [show bindingOf? _ (.variable v) = none from rfl, Option.toList_none, List.append_nil]
    exact hw
  | schedule name cron span =>
    rw [show bindingOf? _ (.event ⟨name, .periodic cron, span⟩) = none from rfl,
      Option.toList_none, List.append_nil]
    exact hw.congr rfl rfl
  | event event members hof hlink =>
    rw [hown event hitem] at hof
    exact linkEvent_provides hof hlink hw hfree
  | handler handler members hkind hinterval hlink =>
    rw [show bindingOf? _ (.handler handler) = none from rfl, Option.toList_none, List.append_nil]
    exact hw

theorem bindingOf?_of_no_field {scope : MonitorScope} {item : MonitorItem}
    (h : fieldOf? scope item = none) : bindingOf? scope item = none := by
  rcases item with v | ⟨event, cron | ⟨occurrence, chain, specifier⟩, span⟩ | handler | source
  · rfl
  · cases h
  · cases h
  · rfl
  · rfl

theorem filterMap_cons_eq_append {α β : Type} (f : α → Option β) (a : α) (rest : List α) :
    (a :: rest).filterMap f = (f a).toList ++ rest.filterMap f := by
  cases h : f a with
  | none => rw [List.filterMap_cons_none h]; rfl
  | some b => rw [List.filterMap_cons_some h]; rfl

/-- The fields of statements provide for the bindings that are listed for these. -/
theorem addFields_provides (h : IsLoweredFrom package index decl b)
    (hown : AreOwnNamesakes decl.body) {number : Nat} {items : List MonitorItem}
    (hitems : ∀ item ∈ items, item ∈ decl.body) {members members' : MonitorMembers}
    (hfold : (items.filterMap (fieldOf? (monitorScope package index decl))).foldlM
      (addField ⟨number, b, bindings⟩) members w = (.ok members', w'))
    (hw : w.Provides calm listed)
    (hqueues : ((listed ++ items.filterMap (bindingOf? (monitorScope package index decl))).map
      (·.queue)).Nodup) :
    w'.Provides calm
      (listed ++ items.filterMap (bindingOf? (monitorScope package index decl))) := by
  induction items generalizing members w listed with
  | nil =>
    cases hfold
    simpa using hw
  | cons item rest ih =>
    rw [filterMap_cons_eq_append, ← List.append_assoc] at hqueues ⊢
    have hfree : ∀ r, bindingOf? (monitorScope package index decl) item = some r →
        r.queue ∉ listed.map (·.queue) := by
      intro r hr hmem
      rw [hr, List.map_append, List.map_append] at hqueues
      exact (List.nodup_append.mp (List.nodup_append.mp hqueues).1).2.2 _ hmem r.queue
        List.mem_cons_self rfl
    have hitem := hitems item List.mem_cons_self
    have hrest : ∀ other ∈ rest, other ∈ decl.body :=
      fun other hother => hitems other (List.mem_cons_of_mem _ hother)
    cases hfield : fieldOf? (monitorScope package index decl) item with
    | none =>
      rw [List.filterMap_cons_none hfield] at hfold
      rw [bindingOf?_of_no_field hfield, Option.toList_none, List.append_nil] at hqueues ⊢
      exact ih hrest hfold hw hqueues
    | some field =>
      rw [List.filterMap_cons_some hfield, List.foldlM_cons] at hfold
      obtain ⟨members₁, w₁, hadd, hfold'⟩ := ok_of_bind hfold
      exact ih hrest hfold' ((addField_eq_ok h hfield hadd).provides hown hitem hw hfree) hqueues

/-- A checked monitor that is linked provides for the bindings of its events. -/
theorem linkMonitor_provides (haccepted : Report.outcome true package index (.monitor decl) = .ok b)
    (hown : AreOwnNamesakes decl.body)
    (hcode : calm → bindings.IsCalmFor (Source.qualify package decl.name)) {number : Nat}
    (hlink : linkMonitor bindings b w = (.ok number, w')) (horderly : w.IsOrderly)
    (hw : w.Provides calm listed) (hqueues : ((listed ++ b.bindings).map (·.queue)).Nodup) :
    w'.Provides calm (listed ++ b.bindings) := by
  obtain ⟨hcheck, hlower⟩ := outcome_eq_ok.mp haccepted
  have h := isLoweredFrom_of_ofMonitor hlower
  rw [h.bindings] at hqueues ⊢
  obtain ⟨rfl, members, w₁, hfields, hrun⟩ := linkMonitor_eq_ok hlink
  have hstarts := starts_of_fields hlower hcheck horderly hfields
  rw [foldlM_fields h] at hfields
  have hmade := addFields_provides h hown (fun _ hitem => hitem) hfields hw hqueues
  obtain ⟨outcome, w₂, hconstructs, hconcluded⟩ := hstarts.constructs hlower
  have hbuilt := hconstructs.provides hqueues
    (fun hcalm i body hbody => hcode hcalm i body hbody _) hstarts.orderly (hmade.congr rfl rfl)
  rcases concluded_eq_ok (hconcluded.symm.trans hrun) with rfl | ⟨fault, rfl⟩
  · exact hbuilt
  · exact hbuilt.congr rfl rfl

end Monitors

/-! ## Spaces -/

/-- The monitors among some blueprints. -/
def monitorsOf (bs : List Blueprint) : List Blueprint := bs.filter (·.kind = .monitor)

theorem monitorsOf_cons_of_monitor {b : Blueprint} (h : b.kind = .monitor) (bs : List Blueprint) :
    monitorsOf (b :: bs) = b :: monitorsOf bs :=
  List.filter_cons_of_pos (by simpa using h)

theorem monitorsOf_cons_of_other {b : Blueprint} (h : b.kind ≠ .monitor) (bs : List Blueprint) :
    monitorsOf (b :: bs) = monitorsOf bs :=
  List.filter_cons_of_neg (by simpa using h)

theorem monitorBindings_cons_of_monitor {b : Blueprint} (h : b.kind = .monitor)
    (rest : List Blueprint) : monitorBindings (b :: rest) =
      (MonitorEntry.ofBlueprint b).bindings ++ monitorBindings rest := by
  simp [monitorBindings, monitorEntries, h]

theorem monitorBindings_cons_of_other {b : Blueprint} (h : b.kind ≠ .monitor)
    (rest : List Blueprint) : monitorBindings (b :: rest) = monitorBindings rest := by
  unfold monitorBindings monitorEntries
  rw [List.filterMap_cons_none]
  split
  · rename_i hkind
    exact absurd hkind h
  · rfl

/-- The blueprint was lowered from an accepted monitor in which each event has its own type. -/
def IsPlainlyTyped (b : Blueprint) : Prop :=
  ∃ package index decl, Report.outcome true package index (.monitor decl) = .ok b ∧
    AreOwnNamesakes decl.body

/-- Monitors that are linked one after the other provide for the bindings of their events. -/
theorem linkMonitors_provides {calm : Prop} {bindings : Bindings} (hcode : calm → bindings.IsCalm)
    {bs : List Blueprint} (hbs : ∀ b ∈ bs, b.kind = .monitor → IsPlainlyTyped b)
    {listed : List Binding} {w w' : World} {numbers : List Nat}
    (hlink : linkMonitors bindings bs w = (.ok numbers, w')) (horderly : w.IsOrderly)
    (hw : w.Provides calm listed)
    (hqueues : ((listed ++ (monitorsOf bs).flatMap Blueprint.bindings).map (·.queue)).Nodup) :
    w'.Provides calm (listed ++ (monitorsOf bs).flatMap Blueprint.bindings) := by
  -- On the blueprints: what was made before is listed with what is to come.
  induction bs generalizing w numbers listed with
  | nil =>
    cases hlink
    simpa [monitorsOf] using hw
  | cons b rest ih =>
    have hrest := fun other (hother : other ∈ rest) => hbs other (List.mem_cons_of_mem _ hother)
    by_cases hkind : b.kind = .monitor
    · obtain ⟨package, index, decl, haccepted, hown⟩ := hbs b List.mem_cons_self hkind
      obtain ⟨hcheck, hlower⟩ := outcome_eq_ok.mp haccepted
      obtain ⟨number, others, w₁, hfirst, hothers, rfl⟩ := linkMonitors_cons_eq_ok hkind hlink
      rw [monitorsOf_cons_of_monitor hkind, List.flatMap_cons, ← List.append_assoc] at hqueues ⊢
      have hfirst' := linkMonitor_provides haccepted hown
        (fun hcalm => (hcode hcalm).isCalmFor _) hfirst horderly hw
        (hqueues.sublist ((List.sublist_append_left _ _).map _))
      exact ih hrest hothers
        (linkMonitor_isSteered hlower hcheck horderly hfirst).1 hfirst' hqueues
    · rw [monitorsOf_cons_of_other hkind] at hqueues ⊢
      rw [linkMonitors_cons_of_other hkind] at hlink
      exact ih hrest hlink horderly hw hqueues

end Watchtower.Linking
