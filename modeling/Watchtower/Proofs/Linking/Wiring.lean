-- The wiring of linked monitors. Each declared event is found under its name, and its source is
-- wired to a declaration: to that of the event itself, unless an event before it has the same name
-- in pascal case. The type of the earlier one is then found in its place.
import Watchtower.Proofs.Linking.Monitor
import Watchtower.Proofs.Live.Frame
import Watchtower.Proofs.Report

namespace Watchtower.Linking

open Live
open Source (MonitorItem EventDecl SourceUnit)

/-! ## Wired sources -/

/-- What an emitter says that raises a source. -/
inductive IsRaisedBy : Source.Emitter → Trigger → Prop where
  | schedule (cron : String) : IsRaisedBy (.periodic cron) (.schedule cron)
  | change {emitter : Source.Expr} {root : String} {path : List String}
      (specifier : Option Source.Specifier) (filter : Option ChangeFilter)
      (hsegments : (Route.segments emitter).filter (!·.isEmpty) = root :: path) :
      IsRaisedBy (.typed .change emitter specifier) (.change root (Text.join "." path) filter)
  | probe {occurrence : Source.Occurrence} (emitter : Source.Expr)
      (specifier : Option Source.Specifier) (hoccurrence : occurrence ≠ .change) :
      IsRaisedBy (.typed occurrence emitter specifier) (.probe occurrence.kind emitter.text)

/-- The name of the source of an event. -/
def sourceName (monitor : String) (event : EventDecl) : String :=
  match event.emitter with
  | .periodic _ => event.name
  | .typed .. => Text.lastDotted (monitor ++ "." ++ event.name)

/-- The queue of an event. One that a schedule raises has none. -/
def queueOf? (monitor : String) (event : EventDecl) : Option String :=
  match event.emitter with
  | .periodic _ => none
  | .typed .change emitter _ =>
    some (monitor ++ "." ++ event.name ++ "." ++
      Text.join "." ((Route.segments emitter).filter (!·.isEmpty)))
  | .typed .. => some (monitor ++ "." ++ event.name)

/-- The source with a number is wired to an event: it is raised by what the event declares, and
its consumer, if it has one, takes from the queue of the event. -/
def IsWiredTo (monitor : String) (event : EventDecl) (w : World) (number : Nat) : Prop :=
  ∃ s, w.sources[number]? = some s ∧ s.name = sourceName monitor event ∧
    IsRaisedBy event.emitter s.trigger ∧
      ∀ c, s.consumer = some c → ∃ queue, queueOf? monitor event = some queue ∧
        w.consumers[c]?.map (·.config.queue) = some queue

theorem IsWiredTo.keeps {monitor : String} {event : EventDecl} {w w' : World} {number : Nat}
    (h : IsWiredTo monitor event w number) (hkeeps : w.Keeps w') :
    IsWiredTo monitor event w' number := by
  obtain ⟨s, hs, hname, hraised, hconsumer⟩ := h
  obtain ⟨s', hs', hwiring⟩ := hkeeps.source hs
  simp only [Live.Source.wiring, Prod.mk.injEq] at hwiring
  obtain ⟨hname', htrigger', hconsumer'⟩ := hwiring
  refine ⟨s', hs', hname'.trans hname, htrigger' ▸ hraised, fun c hc => ?_⟩
  obtain ⟨queue, hqueue, htakes⟩ := hconsumer c (hconsumer' ▸ hc)
  obtain ⟨consumer, hfound, hown⟩ := Option.map_eq_some_iff.mp htakes
  obtain ⟨consumer', hfound', hsame⟩ := hkeeps.consumer hfound
  exact ⟨queue, hqueue, by rw [hfound', Option.map_some, hsame, hown]⟩

/-- A source that was added for an event with a queue is wired to it once its consumer was
started, or could not be. -/
theorem isWiredTo_of_consume {monitor : String} {event : EventDecl} {w w' : World} {number : Nat}
    {s : Live.Source} {config : ConsumerConfig} {site : String} (hs : w.sources[number]? = some s)
    (hnone : s.consumer = none) (hname : s.name = sourceName monitor event)
    (hraised : IsRaisedBy event.emitter s.trigger)
    (hqueue : queueOf? monitor event = some config.queue)
    (h : w.consume number config = .ok w' ∨
      ∃ fault, w.consume number config = .error fault ∧ w' = w.record site fault) :
    IsWiredTo monitor event w' number := by
  obtain ⟨s', hs', hname', htrigger', hconsumer⟩ := World.source_of_consume hs hnone h
  refine ⟨s', hs', hname'.trans hname, htrigger' ▸ hraised, fun c hc => ⟨_, hqueue, ?_⟩⟩
  obtain ⟨consumer, hfound, hconfig⟩ := Option.map_eq_some_iff.mp (hconsumer c hc)
  rw [hfound, Option.map_some, hconfig]

/-- The type of an event is linked to a new source that is wired to the event. -/
theorem linkEvent_isWiredTo {scope : MonitorScope} {event : EventDecl} {t : Blueprint}
    (h : IsTypeOf scope (.event event) t) {w w' : World} {number : Nat}
    (hlink : linkEvent t w = (.ok number, w')) :
    w.Keeps w' ∧ w'.monitors = w.monitors ∧ IsWiredTo scope.qualifiedName event w' number := by
  obtain ⟨grown, hgrown, hadds, -⟩ := linkEvent_isTypeOf h w
  cases hlink.symm.trans hgrown
  refine ⟨hadds.grows.keeps, hadds.monitors, ?_⟩
  cases h with
  | @change name emitter specifier span route _ _ predicate hroute hpredicate =>
    obtain ⟨filter, w₁, hlink', -, hconsume⟩ :=
      linkEvent_ofChange_eq emitter route w hpredicate
    cases hlink.symm.trans hlink'
    rw [Route.ofEmitter?_eq] at hroute
    split at hroute
    · cases hroute
    · rename_i root path hsegments
      cases hroute
      refine isWiredTo_of_consume List.getElem?_concat_length rfl rfl ?_ ?_ hconsume
      · exact .change specifier filter hsegments
      · simp only [queueOf?, hsegments]
        rfl
  | @probe name occurrence emitter span hoccurrence =>
    obtain ⟨w₁, w₂, hlink', hprobe, hconsume⟩ :=
      linkEvent_ofProbe_eq scope name occurrence.kind emitter w
    cases hlink.symm.trans hlink'
    generalize hs : probeSource scope name occurrence.kind emitter = s at hprobe
    have hwiring : w₁.wiring = (w.addSource s).2.wiring := by
      rcases hprobe with rfl | ⟨fault, rfl⟩
      · exact World.wiring_openProbe _ _ _
      · exact World.wiring_openProbe _ _ _
    -- Opening the probe leaves the name, the trigger and the missing consumer as they were.
    have hadded : (w.addSource s).2.sources[w.sources.length]? = some s :=
      List.getElem?_concat_length
    obtain ⟨s₁, hs₁, hsame⟩ := (World.Keeps.of_eq hwiring).source hadded
    rw [← hs] at hsame
    simp only [Live.Source.wiring, Prod.mk.injEq, probeSource] at hsame
    obtain ⟨hname, htrigger, hnone⟩ := hsame
    refine isWiredTo_of_consume hs₁ hnone hname ?_ ?_ hconsume
    · rw [htrigger]
      exact .probe emitter none hoccurrence
    · unfold queueOf?
      split
      · rename_i heq
        cases heq
      · rename_i heq
        cases heq
        exact absurd rfl hoccurrence
      · rfl

/-! ## Namesakes -/

/-- The statement declares an event that has a type, and this name in pascal case. -/
def isNamesake (name : String) : MonitorItem → Bool
  | .event ⟨other, .typed .., _⟩ => Naming.pascal other == Naming.pascal name
  | _ => false

/-- The declaration whose type an event of a monitor gets. -/
def namesake (body : List MonitorItem) (event : EventDecl) : EventDecl :=
  match event.emitter with
  | .periodic _ => event
  | .typed .. =>
    match body.find? (isNamesake event.name) with
    | some (.event other) => other
    | _ => event

theorem suffix_of_nestedName {scope : MonitorScope} {member member' suffix suffix' : String}
    (hsuffix : suffix ∈ ["Event", "Job", "Observer"])
    (hsuffix' : suffix' ∈ ["Event", "Job", "Observer"])
    (h : scope.nestedName member suffix = scope.nestedName member' suffix') : suffix = suffix' := by
  have hlast : (scope.nestedName member suffix).toList.getLast? =
      (scope.nestedName member' suffix').toList.getLast? := by rw [h]
  simp only [List.mem_cons, List.not_mem_nil, or_false] at hsuffix hsuffix'
  rcases hsuffix with rfl | rfl | rfl <;> rcases hsuffix' with rfl | rfl | rfl <;>
    simp [MonitorScope.nestedName] at hlast ⊢

theorem name_ofHandler (scope : MonitorScope) (decl : Source.HandlerDecl) (kind : EventKind) :
    (Blueprint.ofHandler scope decl kind).name =
      scope.nestedName decl.name (if kind = .interval then "Job" else "Observer") := by
  unfold Blueprint.ofHandler
  split <;> rfl

/-- The statements with a type of this name are the namesakes of an event. -/
theorem typeName?_beq_event (scope : MonitorScope) (name : String) (item : MonitorItem) :
    (typeName? scope item == some (scope.nestedName name "Event")) = isNamesake name item := by
  rw [Bool.eq_iff_iff]
  rcases item with decl | ⟨other, emitter | ⟨occurrence, emitter, specifier⟩, span⟩ | decl | source
  · simp [typeName?, isNamesake]
  · simp [typeName?, isNamesake]
  · simp [typeName?, isNamesake, MonitorScope.nestedName, String.append_assoc]
  · simp only [typeName?, isNamesake, beq_iff_eq, Option.map_eq_some_iff, Bool.false_eq_true,
      iff_false, not_exists, not_and]
    intro kind hkind hname
    rw [name_ofHandler] at hname
    have hsuffix := suffix_of_nestedName (by split <;> simp) (by simp) hname
    split at hsuffix
    · exact absurd hsuffix (by decide)
    · exact absurd hsuffix (by decide)
  · simp [typeName?, isNamesake]

section Types

variable {package : Option String} {index : SpaceIndex} {decl : Source.Monitor} {b : Blueprint}

/-- The type that is found for an event is that of its namesake. -/
theorem isTypeOf_namesake (h : IsLoweredFrom package index decl b) {event : EventDecl}
    {occurrence : Source.Occurrence} {emitter : Source.Expr} {specifier : Option Source.Specifier}
    (htyped : event.emitter = .typed occurrence emitter specifier) {t : Blueprint}
    (hfound : b.nested? ((monitorScope package index decl).nestedName event.name "Event") =
      some t) :
    IsTypeOf (monitorScope package index decl) (.event (namesake decl.body event)) t := by
  obtain ⟨item, hitem, hof⟩ := h.find? hfound
  simp only [typeName?_beq_event] at hitem
  have hsame : isNamesake event.name item = true := List.find?_some hitem
  rcases item with v | other | handler | source
  · cases hsame
  · unfold namesake
    simp only [htyped, hitem]
    exact hof
  · cases hsame
  · cases hsame

/-- An event whose name no other type shares is its own namesake. -/
theorem namesake_eq_self {body : List MonitorItem} {event : EventDecl}
    (h : ∀ other, .event other ∈ body → isNamesake event.name (.event other) → other = event) :
    namesake body event = event := by
  unfold namesake
  split
  · rfl
  · split
    · rename_i other hother
      exact h other (List.mem_of_find?_eq_some hother) (List.find?_some hother)
    · rfl

/-- The type that is found for a handler is that of a handler, and of intervals when this one is. -/
theorem ofHandler_of_nested? (h : IsLoweredFrom package index decl b) {handler : Source.HandlerDecl}
    {kind : EventKind} {t : Blueprint}
    (hfound : b.nested? (Blueprint.ofHandler (monitorScope package index decl) handler
      kind).name = some t) :
    ∃ other kind', t = Blueprint.ofHandler (monitorScope package index decl) other kind' ∧
      (kind = .interval → kind' = .interval) := by
  obtain ⟨item, hitem, hof⟩ := h.find? hfound
  have hname : t.name = (Blueprint.ofHandler (monitorScope package index decl) handler
      kind).name := by
    have hsame := List.find?_some hitem
    rw [hof.typeName?] at hsame
    simpa using hsame
  rw [name_ofHandler] at hname
  have hsuffix : (if kind = .interval then "Job" else "Observer") ∈ ["Job", "Observer"] := by
    split <;> simp
  cases hof with
  | change hroute hpredicate =>
    have hevent := suffix_of_nestedName (by simp) (List.mem_cons_of_mem _ hsuffix) hname
    rw [← hevent] at hsuffix
    simp at hsuffix
  | probe hoccurrence =>
    have hevent := suffix_of_nestedName (by simp) (List.mem_cons_of_mem _ hsuffix) hname
    rw [← hevent] at hsuffix
    simp at hsuffix
  | @handler other kind' hkind =>
    refine ⟨other, kind', rfl, ?_⟩
    rintro rfl
    rw [name_ofHandler, if_pos rfl] at hname
    have hjob := suffix_of_nestedName (by split <;> simp) (by simp) hname
    by_contra hother
    rw [if_neg hother] at hjob
    exact absurd hjob (by decide)

end Types

/-! ## Steps that end well -/

theorem ok_of_orElseUndo {α : Type} {step : Link α} {undo : World → World} {w w' : World} {a : α}
    (h : Link.orElseUndo step undo w = (.ok a, w')) : step w = (.ok a, w') := by
  cases hstep : step w with
  | mk outcome w₁ =>
    cases outcome with
    | ok found => rw [← h, orElseUndo_of_ok hstep]
    | error refusal =>
      rw [orElseUndo_of_error hstep] at h
      cases h

theorem ok_of_ofRun {α : Type} {run : Run α} {name : String} {w w' : World} {a : α}
    (h : Link.ofRun name run w = (.ok a, w')) : run w = (.ok a, w') := by
  unfold Link.ofRun at h
  split at h
  · rename_i hrun
    cases h
    exact hrun
  · cases h
  · cases h

/-- Where monitors are linked, the first is linked before the others. -/
theorem linkMonitors_cons_eq_ok {bindings : Bindings} {b : Blueprint} {bs : List Blueprint}
    (hkind : b.kind = .monitor) {numbers : List Nat} {w w' : World}
    (h : linkMonitors bindings (b :: bs) w = (.ok numbers, w')) :
    ∃ number others w₁, linkMonitor bindings b w = (.ok number, w₁) ∧
      linkMonitors bindings bs w₁ = (.ok others, w') ∧ numbers = number :: others := by
  rw [linkMonitors, if_pos hkind] at h
  obtain ⟨number, w₁, hfirst, h⟩ := ok_of_bind h
  obtain ⟨others, w₂, hothers, hok⟩ := ok_of_bind h
  cases hok
  exact ⟨number, others, w₁, hfirst, ok_of_orElseUndo hothers, rfl⟩

theorem require_eq_ok {α : Type} {name reason : String} {found : Option α} {w w' : World} {a : α}
    (h : Link.require name reason found w = (.ok a, w')) : found = some a ∧ w' = w := by
  cases found with
  | none => cases h
  | some found =>
    cases h
    exact ⟨rfl, rfl⟩

theorem nestedType_eq_ok {b t : Blueprint} {type : String} {w w' : World}
    (h : nestedType b type w = (.ok t, w')) : b.nested? type = some t ∧ w' = w :=
  require_eq_ok h

theorem ofExcept_eq_ok {α : Type} {name : String} {x : Except Fault α} {w w' : World} {a : α}
    (h : Link.ofExcept name x w = (.ok a, w')) : w' = w := by
  cases x with
  | ok found =>
    cases h
    rfl
  | error fault => cases h

/-- A handler is linked without a change of the world, and one of intervals as a job. -/
theorem linkHandler_eq_ok {place : MonitorPlace} {t : Blueprint} {w w' : World} {handler : Handler}
    (h : linkHandler place t w = (.ok handler, w')) :
    w' = w ∧ ∀ name, t.kind = .intervalJob name → ∃ task, handler = .job task := by
  unfold linkHandler at h
  cases hkind : t.kind with
  | intervalJob name =>
    simp only [hkind] at h
    cases h
    exact ⟨rfl, fun _ _ => ⟨_, rfl⟩⟩
  | observerAdapter kind name =>
    simp only [hkind] at h
    cases h
    exact ⟨rfl, nofun⟩
  | _ =>
    simp only [hkind] at h
    cases h

/-! ## Members -/

/-- What was made of statements: for each event a source that is wired to its namesake, and for
each handler of intervals a job. -/
structure Joins (monitor : String) (body items : List MonitorItem) (members : MonitorMembers)
    (w : World) (members' : MonitorMembers) (w' : World) : Prop where
  keeps : w.Keeps w'
  monitors : w'.monitors = w.monitors
  events : ∃ more, members'.events = members.events ++ more ∧
    more.map (·.1) = items.filterMap eventName? ∧
    ∀ event, .event event ∈ items → ∃ source, (event.name, source) ∈ more ∧
      IsWiredTo monitor (namesake body event) w' source
  jobs : ∀ handler, .handler handler ∈ items →
    EventKind.ofTypeName? handler.paramType = some .interval →
      ∃ task, members'.handlers.lookup handler.name = some (.job task)
  others : ∀ name ∉ items.filterMap MonitorItem.name?,
    members'.handlers.lookup name = members.handlers.lookup name

theorem Joins.nil (monitor : String) (body : List MonitorItem) (members : MonitorMembers)
    (w : World) : Joins monitor body [] members w members w :=
  ⟨.refl w, rfl, ⟨[], by simp⟩, by simp, fun _ _ => rfl⟩

theorem Joins.append {monitor : String} {body first rest : List MonitorItem}
    {members₁ members₂ members₃ : MonitorMembers} {w₁ w₂ w₃ : World}
    (h : Joins monitor body first members₁ w₁ members₂ w₂)
    (h' : Joins monitor body rest members₂ w₂ members₃ w₃)
    (hnames : ((first ++ rest).filterMap MonitorItem.name?).Nodup) :
    Joins monitor body (first ++ rest) members₁ w₁ members₃ w₃ := by
  obtain ⟨more, hmore, hmapped, hwired⟩ := h.events
  obtain ⟨more', hmore', hmapped', hwired'⟩ := h'.events
  rw [List.filterMap_append, List.nodup_append] at hnames
  refine ⟨h.keeps.trans h'.keeps, h'.monitors.trans h.monitors,
    ⟨more ++ more', ?added, ?mapped, ?wired⟩, ?jobs, ?others⟩
  case added =>
    rw [hmore', hmore, List.append_assoc]
  case mapped =>
    rw [List.map_append, hmapped, hmapped', List.filterMap_append]
  case wired =>
    intro event hevent
    rcases List.mem_append.mp hevent with hevent | hevent
    · obtain ⟨source, hsource, hto⟩ := hwired event hevent
      exact ⟨source, List.mem_append_left _ hsource, hto.keeps h'.keeps⟩
    · obtain ⟨source, hsource, hto⟩ := hwired' event hevent
      exact ⟨source, List.mem_append_right _ hsource, hto⟩
  case jobs =>
    intro handler hhandler hkind
    rcases List.mem_append.mp hhandler with hhandler | hhandler
    · -- No later handler has the name, so the job stays.
      have hname : handler.name ∈ first.filterMap MonitorItem.name? :=
        List.mem_filterMap.mpr ⟨_, hhandler, rfl⟩
      rw [h'.others handler.name fun hin => hnames.2.2 _ hname _ hin rfl]
      exact h.jobs handler hhandler hkind
    · exact h'.jobs handler hhandler hkind
  case others =>
    intro name hname
    rw [List.filterMap_append, List.mem_append, not_or] at hname
    rw [h'.others name hname.2, h.others name hname.1]

/-- A source that was added for an event is what is made of it. -/
theorem joins_of_event {monitor : String} {body : List MonitorItem} {event : EventDecl}
    {w w' : World} {source : Nat} (members : MonitorMembers) (hkeeps : w.Keeps w')
    (hmonitors : w'.monitors = w.monitors)
    (hwired : IsWiredTo monitor (namesake body event) w' source) :
    Joins monitor body [.event event] members w
      { members with events := members.events ++ [(event.name, source)] } w' := by
  refine ⟨hkeeps, hmonitors, ⟨[(event.name, source)], rfl, rfl, ?_⟩, by simp, fun _ _ => rfl⟩
  intro other hother
  cases List.mem_singleton.mp hother
  exact ⟨source, List.mem_singleton.mpr rfl, hwired⟩

section Fields

variable {package : Option String} {index : SpaceIndex} {decl : Source.Monitor} {b : Blueprint}
  {number : Nat} {bindings : Bindings}

/-- How the field of a statement is made: what it adds to the members, and to the world. -/
inductive Made (package : Option String) (index : SpaceIndex) (decl : Source.Monitor)
    (place : MonitorPlace) :
    MonitorItem → MonitorMembers → World → MonitorMembers → World → Prop where
  | value (v : Source.Variable) (value : Json) (members : MonitorMembers) (w : World) :
      Made package index decl place (.variable v) members w
        { members with vars := Sorted.insert v.name ⟨value, !v.writable⟩ members.vars } w
  | schedule (name cron : String) (span : Option Source.Span) (members : MonitorMembers)
      (w : World) :
      Made package index decl place (.event ⟨name, .periodic cron, span⟩) members w
        { members with events := members.events ++ [(name, w.sources.length)] }
        (w.addSource { name, trigger := .schedule cron }).2
  | event (event : EventDecl) (members : MonitorMembers) {t : Blueprint} {source : Nat}
      {w w' : World}
      (hof : IsTypeOf (monitorScope package index decl) (.event (namesake decl.body event)) t)
      (hlink : linkEvent t w = (.ok source, w')) :
      Made package index decl place (.event event) members w
        { members with events := members.events ++ [(event.name, source)] } w'
  | handler (handler : Source.HandlerDecl) (members : MonitorMembers) {other : Source.HandlerDecl}
      {kind kind' : EventKind} {made : Handler} {w : World}
      (hkind : EventKind.ofTypeName? handler.paramType = some kind)
      (hinterval : kind = .interval → kind' = .interval)
      (hlink : linkHandler place (Blueprint.ofHandler (monitorScope package index decl) other
        kind') w = (.ok made, w)) :
      Made package index decl place (.handler handler) members w
        { members with handlers := Sorted.insert handler.name made members.handlers } w

/-- A field that was added is that of its statement. -/
theorem addField_eq_ok (h : IsLoweredFrom package index decl b) {item : MonitorItem} {field : Field}
    (hfield : fieldOf? (monitorScope package index decl) item = some field)
    {members members' : MonitorMembers} {w w' : World}
    (hadd : addField ⟨number, b, bindings⟩ members field w = (.ok members', w')) :
    Made package index decl ⟨number, b, bindings⟩ item members w members' w' := by
  rcases item with v | ⟨event, cron | ⟨occurrence, chain, specifier⟩, span⟩ | handler | source
  · cases hfield
    obtain ⟨value, w₁, hvalue, hok⟩ := ok_of_bind hadd
    cases hok
    rw [ofExcept_eq_ok hvalue]
    exact .value v value members w
  · cases hfield
    cases hadd
    exact .schedule event cron span members w
  · cases hfield
    obtain ⟨t, w₁, htype, hrest⟩ := ok_of_bind hadd
    obtain ⟨source, w₂, hlink, hok⟩ := ok_of_bind hrest
    obtain ⟨hfound, rfl⟩ := nestedType_eq_ok htype
    cases hok
    exact .event ⟨event, .typed occurrence chain specifier, span⟩ members
      (isTypeOf_namesake h rfl hfound) hlink
  · obtain ⟨kind, hkind, rfl⟩ := Option.map_eq_some_iff.mp hfield
    obtain ⟨t, w₁, htype, hrest⟩ := ok_of_bind hadd
    obtain ⟨made, w₂, hlink, hok⟩ := ok_of_bind hrest
    obtain ⟨hfound, rfl⟩ := nestedType_eq_ok htype
    obtain ⟨rfl, -⟩ := linkHandler_eq_ok hlink
    cases hok
    obtain ⟨other, kind', rfl, hinterval⟩ := ofHandler_of_nested? h hfound
    exact .handler handler members hkind hinterval hlink
  · cases hfield

/-- What is made of a statement joins its event to its namesake, and its handler of intervals to a
job. -/
theorem Made.joins {item : MonitorItem} {members members' : MonitorMembers} {w w' : World}
    (h : Made package index decl ⟨number, b, bindings⟩ item members w members' w') :
    Joins (Source.qualify package decl.name) decl.body [item] members w members' w' := by
  cases h with
  | value v value =>
    exact ⟨.refl w, rfl, ⟨[], by simp [eventName?]⟩, by simp, fun _ _ => rfl⟩
  | schedule name cron span =>
    have hgrows := World.grows_addSource (fun _ => True) w
      (s := { name, trigger := .schedule cron }) rfl rfl
    refine joins_of_event members hgrows.keeps rfl ?_
    refine ⟨_, List.getElem?_concat_length, rfl, .schedule cron, fun c hc => ?_⟩
    cases hc
  | event event members hof hlink =>
    obtain ⟨hkeeps, hmonitors, hwired⟩ := linkEvent_isWiredTo hof hlink
    exact joins_of_event members hkeeps hmonitors hwired
  | handler handler members hkind hinterval hlink =>
    obtain ⟨-, hjob⟩ := linkHandler_eq_ok hlink
    refine ⟨.refl _, rfl, ⟨[], by simp [eventName?]⟩, ?_, ?_⟩
    · intro other hother hintervals
      cases List.mem_singleton.mp hother
      rw [hkind] at hintervals
      cases hintervals
      cases hinterval rfl
      obtain ⟨task, rfl⟩ := hjob _ rfl
      exact ⟨task, Sorted.lookup_insert_self _ _ _⟩
    · intro name hname
      have hne : name ≠ handler.name := by
        simpa [MonitorItem.name?] using hname
      exact Sorted.lookup_insert_of_ne _ _ hne

/-- Statements without a field make nothing. -/
theorem joins_of_no_field {scope : MonitorScope} {monitor : String} {body : List MonitorItem}
    {item : MonitorItem} (h : fieldOf? scope item = none) (members : MonitorMembers) (w : World) :
    Joins monitor body [item] members w members w := by
  rcases item with decl | ⟨name, emitter | ⟨occurrence, emitter, specifier⟩, span⟩ | decl | source
  · cases h
  · cases h
  · cases h
  · refine ⟨.refl w, rfl, ⟨[], by simp [eventName?]⟩, ?_, fun _ _ => rfl⟩
    intro other hother hkind
    cases List.mem_singleton.mp hother
    simp [fieldOf?, hkind] at h
  · exact ⟨.refl w, rfl, ⟨[], by simp [eventName?]⟩, by simp, fun _ _ => rfl⟩

/-- The fields of statements are made one after the other. -/
theorem addFields_joins (h : IsLoweredFrom package index decl b) {items : List MonitorItem}
    (hnames : (items.filterMap MonitorItem.name?).Nodup) {members members' : MonitorMembers}
    {w w' : World}
    (hfold : (items.filterMap (fieldOf? (monitorScope package index decl))).foldlM
      (addField ⟨number, b, bindings⟩) members w = (.ok members', w')) :
    Joins (Source.qualify package decl.name) decl.body items members w members' w' := by
  induction items generalizing members w with
  | nil =>
    cases hfold
    exact .nil _ _ _ _
  | cons item rest ih =>
    have hrest : (rest.filterMap MonitorItem.name?).Nodup := by
      rw [← List.singleton_append, List.filterMap_append] at hnames
      exact (List.nodup_append.mp hnames).2.1
    cases hfield : fieldOf? (monitorScope package index decl) item with
    | none =>
      rw [List.filterMap_cons_none hfield] at hfold
      exact (joins_of_no_field hfield members w).append (ih hrest hfold) hnames
    | some field =>
      rw [List.filterMap_cons_some hfield, List.foldlM_cons] at hfold
      obtain ⟨members₁, w₁, hadd, hfold'⟩ := ok_of_bind hfold
      exact (addField_eq_ok h hfield hadd).joins.append (ih hrest hfold') hnames

end Fields

/-! ## Monitors -/

/-- A linked monitor gets the next number. Its members are made of its fields, and then its
constructor runs to the end. -/
theorem linkMonitor_eq_ok {bindings : Bindings} {b : Blueprint} {w w' : World} {number : Nat}
    (h : linkMonitor bindings b w = (.ok number, w')) :
    number = w.monitors.length ∧ ∃ members w₁,
      b.fields.foldlM (addField ⟨number, b, bindings⟩) {} w = (.ok members, w₁) ∧
      execute callDepth "" number b.constructor { w₁ with
        monitors := w₁.monitors ++ [newMonitor b bindings members w₁.spaces] } = (.ok (), w') := by
  unfold linkMonitor at h
  by_cases hkind : b.kind = .monitor
  case neg =>
    rw [if_pos hkind] at h
    obtain ⟨⟨⟩, w₀, hrefuse, -⟩ := ok_of_bind h
    cases hrefuse
  simp only [hkind, ne_eq, not_true_eq_false, if_false] at h
  rw [get_bind] at h
  obtain ⟨members, w₁, hfields, hrest⟩ := ok_of_bind h
  rw [modify_bind] at hrest
  obtain ⟨⟨⟩, w₂, hrun, hok⟩ := ok_of_bind hrest
  cases hok
  exact ⟨rfl, members, w₁, ok_of_orElseUndo hfields, ok_of_ofRun (ok_of_orElseUndo hrun)⟩

/-- The events and handlers of a monitor are found under their names: an event with a source that
is wired to its namesake, and a handler of intervals as a job. -/
structure IsJoined (monitor : String) (body : List MonitorItem) (w : World) (m : Live.Monitor) :
    Prop where
  name : m.qualifiedName = monitor
  events : ∀ event, .event event ∈ body → ∃ source, m.event event.name = .ok source ∧
    IsWiredTo monitor (namesake body event) w source
  jobs : ∀ handler, .handler handler ∈ body →
    EventKind.ofTypeName? handler.paramType = some .interval →
      ∃ task, m.handler handler.name = .ok (.job task)

theorem IsJoined.keeps {monitor : String} {body : List MonitorItem} {w w' : World}
    {m m' : Live.Monitor} (h : IsJoined monitor body w m) (hkeeps : w.Keeps w')
    (hm : m'.wiring = m.wiring) : IsJoined monitor body w' m' := by
  simp only [Live.Monitor.wiring, Prod.mk.injEq] at hm
  obtain ⟨hname, hevents, hhandlers⟩ := hm
  refine ⟨hname.trans h.name, fun event hevent => ?_, fun handler hhandler hkind => ?_⟩
  · obtain ⟨source, hsource, hwired⟩ := h.events event hevent
    unfold Monitor.event at hsource ⊢
    exact ⟨source, hevents ▸ hsource, hwired.keeps hkeeps⟩
  · obtain ⟨task, htask⟩ := h.jobs handler hhandler hkind
    unfold Monitor.handler at htask ⊢
    exact ⟨task, hhandlers ▸ htask⟩

/-- A checked monitor that is linked is joined, and whatever was there keeps its wiring. -/
theorem linkMonitor_joins {package : Option String} {index : SpaceIndex} {decl : Source.Monitor}
    {b : Blueprint} (h : IsLoweredFrom package index decl b)
    (hcheck : Members.checkMonitor index decl = .ok ()) {bindings : Bindings} {w w' : World}
    {number : Nat} (hlink : linkMonitor bindings b w = (.ok number, w')) :
    w.Keeps w' ∧ ∃ m, w'.monitors[number]? = some m ∧
      IsJoined (Source.qualify package decl.name) decl.body w' m := by
  have hnames : (decl.body.filterMap MonitorItem.name?).Nodup :=
    (List.nodup_append.mp (nodup_of_map (names_of_checkMonitor hcheck).1)).2.1
  obtain ⟨rfl, members, w₁, hfields, hrun⟩ := linkMonitor_eq_ok hlink
  have hwiring := execute_isSteady callDepth "" w.monitors.length b.constructor
    { w₁ with monitors := w₁.monitors ++ [newMonitor b bindings members w₁.spaces] }
  rw [hrun] at hwiring
  rw [foldlM_fields h] at hfields
  have hjoins := addFields_joins h hnames hfields
  obtain ⟨more, hmore, hmapped, hwired⟩ := hjoins.events
  generalize hnew : newMonitor b bindings members w₁.spaces = new at hwiring
  have hadded : w₁.Keeps { w₁ with monitors := w₁.monitors ++ [new] } :=
    ⟨List.prefix_rfl, List.prefix_rfl, (List.prefix_append _ _).map _⟩
  have hlast : ({ w₁ with monitors := w₁.monitors ++ [new] } : World).monitors[
      w.monitors.length]? = some new := by
    rw [← hjoins.monitors]
    exact List.getElem?_concat_length
  have hjoined : IsJoined (Source.qualify package decl.name) decl.body
      { w₁ with monitors := w₁.monitors ++ [new] } new := by
    rw [← hnew]
    refine ⟨h.qualifiedName, fun event hevent => ?_, fun handler hhandler hkind => ?_⟩
    · obtain ⟨source, hsource, hto⟩ := hwired event hevent
      refine ⟨source, ?_, hto.keeps (hnew ▸ hadded)⟩
      have hlookup : members.events.lookup event.name = some source := by
        apply lookup_of_mem
        · rw [hmore, List.nil_append, hmapped]
          exact nodup_eventNames hnames
        · rw [hmore, List.nil_append]
          exact hsource
      unfold Monitor.event newMonitor
      rw [hlookup]
    · obtain ⟨task, htask⟩ := hjoins.jobs handler hhandler hkind
      unfold Monitor.handler newMonitor
      rw [htask]
      exact ⟨task, rfl⟩
  obtain ⟨m, hm, hsame⟩ := (World.Keeps.of_eq hwiring).monitor hlast
  exact ⟨(hjoins.keeps.trans hadded).trans (.of_eq hwiring), m, hm,
    hjoined.keeps (.of_eq hwiring) hsame⟩

/-! ## The law -/

/-- A checked monitor is linked, with whatever user code and in whatever world. Then each declared
event is found under its name, and its source is wired to its namesake: to the first event with
the same type name, which is the event itself where no other event has its name in pascal case. -/
theorem an_event_is_wired_to_its_namesake {package : Option String} {index : SpaceIndex}
    {decl : Source.Monitor} {b : Blueprint}
    (haccepted : Report.outcome true package index (.monitor decl) = .ok b) {bindings : Bindings}
    {w w' : World} {number : Nat} (hlink : linkMonitor bindings b w = (.ok number, w')) :
    ∃ m, w'.monitors[number]? = some m ∧ m.qualifiedName = Source.qualify package decl.name ∧
      ∀ event, .event event ∈ decl.body → ∃ source, m.event event.name = .ok source ∧
        IsWiredTo (Source.qualify package decl.name) (namesake decl.body event) w' source ∧
        ((∀ other, .event other ∈ decl.body → isNamesake event.name (.event other) →
          other = event) → IsWiredTo (Source.qualify package decl.name) event w' source) := by
  obtain ⟨hcheck, hlower⟩ := outcome_eq_ok.mp haccepted
  obtain ⟨-, m, hm, hjoined⟩ := linkMonitor_joins (isLoweredFrom_of_ofMonitor hlower) hcheck hlink
  refine ⟨m, hm, hjoined.name, fun event hevent => ?_⟩
  obtain ⟨source, hsource, hwired⟩ := hjoined.events event hevent
  refine ⟨source, hsource, hwired, fun hsole => ?_⟩
  rw [namesake_eq_self hsole] at hwired
  exact hwired

/-- A monitor with an event of each kind, two of which have one name in pascal case. -/
def callMonitor : Source.Monitor :=
  ⟨"Perf", [], [
    .event ⟨"tick", .periodic "* * * * *", none⟩,
    .event ⟨"hot", .typed .change (.chain ["cpu", "load"]) none, none⟩,
    .event ⟨"call", .typed .invoke (.source "f()") none, none⟩,
    .event ⟨"call_", .typed .invoke (.source "g()") none, none⟩], none⟩

/-- A monitor of a package without namespaces, linked in an empty world. -/
def linkAlone (decl : Source.Monitor) (bindings : Bindings) : Except Refusal Nat × World :=
  match Report.outcome true (some "demo") {} (.monitor decl) with
  | .ok b => linkMonitor bindings b {}
  | .error rejection => (.error (.rejected rejection), {})

theorem linkAlone_eq_ok {decl : Source.Monitor} {bindings : Bindings} {number : Nat}
    (h : (linkAlone decl bindings).1.toOption = some number) :
    ∃ b, Report.outcome true (some "demo") {} (.monitor decl) = .ok b ∧
      linkMonitor bindings b {} = (.ok number, (linkAlone decl bindings).2) := by
  unfold linkAlone at h ⊢
  split at h
  · rename_i b hb
    exact ⟨b, hb, eq_of_fst_toOption h⟩
  · cases h

theorem the_events_of_calls_are_wired_to_their_namesakes :
    ∃ b w', Report.outcome true (some "demo") {} (.monitor callMonitor) = .ok b ∧
      linkMonitor {} b {} = (.ok 0, w') ∧ ∃ m, w'.monitors[0]? = some m ∧
        ∀ event, .event event ∈ callMonitor.body → ∃ source, m.event event.name = .ok source ∧
          IsWiredTo "demo.Perf" (namesake callMonitor.body event) w' source := by
  have hlinked : (linkAlone callMonitor {}).1.toOption = some 0 := by decide +kernel
  obtain ⟨b, hb, hlink⟩ := linkAlone_eq_ok hlinked
  obtain ⟨m, hm, -, hevents⟩ := an_event_is_wired_to_its_namesake hb hlink
  refine ⟨b, _, hb, hlink, m, hm, fun event hevent => ?_⟩
  obtain ⟨source, hsource, hwired, -⟩ := hevents event hevent
  have hname : Source.qualify (some "demo") callMonitor.name = "demo.Perf" := by decide +kernel
  rw [hname] at hwired
  exact ⟨source, hsource, hwired⟩

/-- The second of two calls whose names are alike is accepted and linked, and raised by the probe
of the first. -/
theorem an_event_is_wired_to_the_declaration_of_another :
    ∃ b w' m s, Report.outcome true (some "demo") {} (.monitor callMonitor) = .ok b ∧
      linkMonitor {} b {} = (.ok 0, w') ∧ w'.monitors[0]? = some m ∧ m.event "call_" = .ok 3 ∧
      w'.sources[3]? = some s ∧ s.emitter = "f()" ∧
      ¬ IsWiredTo "demo.Perf" ⟨"call_", .typed .invoke (.source "g()") none, none⟩ w' 3 := by
  have hlinked : (linkAlone callMonitor {}).1.toOption = some 0 := by decide +kernel
  obtain ⟨b, hb, hlink⟩ := linkAlone_eq_ok hlinked
  have hevent : (linkAlone callMonitor {}).2.monitors[0]?.map
      (fun m => (m.event "call_").toOption) = some (some 3) := by decide +kernel
  have hsource : (linkAlone callMonitor {}).2.sources[3]?.map (·.emitter) = some "f()" := by
    decide +kernel
  obtain ⟨m, hm, hthird⟩ := Option.map_eq_some_iff.mp hevent
  obtain ⟨s, hs, hemitter⟩ := Option.map_eq_some_iff.mp hsource
  refine ⟨b, _, m, s, hb, hlink, hm, ?_, hs, hemitter, ?_⟩
  · exact toOption_eq_some_iff.mp hthird
  · rintro ⟨s', hs', -, hraised, -⟩
    cases hs.symm.trans hs'
    obtain ⟨name, trigger⟩ := s
    cases hraised with
    | probe =>
      have hsame : (Source.Expr.source "g()").text = "f()" := hemitter
      exact absurd hsame (by decide)

end Watchtower.Linking
