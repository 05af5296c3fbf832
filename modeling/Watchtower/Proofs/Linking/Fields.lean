-- The fields of linked monitors. All of them are made when the variables have their values. Each
-- event gets the next source, and what fails while it is made is recorded at a site of the event.
-- So a monitor that is added with its fields leaves the world orderly.
import Watchtower.Proofs.Linking.Wiring
import Watchtower.Proofs.Live.Construction

namespace Watchtower

open Source (MonitorItem EventDecl)

namespace Live.World

/-! ## Sites -/

/-- The failures that were recorded at a site. -/
def failuresAt (w : World) (site : String) : List Failure := w.failures.filter (·.site = site)

/-- What was recorded since is recorded at sites of a kind. -/
def RecordsAt (sites : String → Prop) (w w' : World) : Prop :=
  ∃ more, w'.failures = w.failures ++ more ∧ ∀ failure ∈ more, sites failure.site

theorem RecordsAt.of_eq {sites : String → Prop} {w w' : World} (h : w'.failures = w.failures) :
    RecordsAt sites w w' :=
  ⟨[], by simp [h]⟩

theorem RecordsAt.trans {sites : String → Prop} {w₁ w₂ w₃ : World} (h : RecordsAt sites w₁ w₂)
    (h' : RecordsAt sites w₂ w₃) : RecordsAt sites w₁ w₃ := by
  obtain ⟨more, hmore, hsites⟩ := h
  obtain ⟨more', hmore', hsites'⟩ := h'
  refine ⟨more ++ more', by rw [hmore', hmore, List.append_assoc], fun failure hfailure => ?_⟩
  rcases List.mem_append.mp hfailure with hin | hin
  · exact hsites failure hin
  · exact hsites' failure hin

theorem RecordsAt.record {sites : String → Prop} {w w' : World} (h : RecordsAt sites w w')
    {site : String} (hsite : sites site) (fault : Fault) :
    RecordsAt sites w (w'.record site fault) :=
  h.trans ⟨[⟨site, fault.message⟩], rfl, by simp [hsite]⟩

/-- A site of another kind has the failures that it had. -/
theorem RecordsAt.failuresAt_eq {sites : String → Prop} {w w' : World} (h : RecordsAt sites w w')
    {site : String} (hsite : ¬ sites site) : w'.failuresAt site = w.failuresAt site := by
  obtain ⟨more, hmore, hsites⟩ := h
  have hnone : more.filter (·.site = site) = [] := by
    rw [List.filter_eq_nil_iff]
    intro failure hfailure
    simp only [decide_eq_true_eq]
    rintro rfl
    exact hsite (hsites failure hfailure)
  unfold failuresAt
  rw [hmore, List.filter_append, hnone, List.append_nil]

theorem RecordsAt.consume {sites : String → Prop} {w w₁ w₂ : World} (h : RecordsAt sites w w₁)
    {source : Nat} {config : ConsumerConfig} {site : String} (hsite : sites site)
    (hconsume : w₁.consume source config = .ok w₂ ∨
      ∃ fault, w₁.consume source config = .error fault ∧ w₂ = w₁.record site fault) :
    RecordsAt sites w w₂ := by
  rcases consume_cases hconsume with rfl | ⟨fault, rfl⟩
  · exact h.trans (.of_eq rfl)
  · exact h.record hsite fault

theorem failures_openProbe (w : World) (source : Nat) (routingKey : String) :
    (w.openProbe source routingKey).2.failures = w.failures := by
  unfold openProbe
  split
  · rfl
  · simp only []
    split <;> rfl

end Live.World

namespace Linking

open Live

/-- The site is that of an event of the monitor. -/
def IsEventSite (scope : MonitorScope) (site : String) : Prop :=
  ∃ event, site = eventSite scope event

/-- What fails while an event is linked is recorded at a site of an event. -/
theorem linkEvent_recordsAt {scope : MonitorScope} {event : EventDecl} {t : Blueprint}
    (h : IsTypeOf scope (.event event) t) {w w' : World} {number : Nat}
    (hlink : linkEvent t w = (.ok number, w')) : w.RecordsAt (IsEventSite scope) w' := by
  cases h with
  | @change name emitter specifier span route _ _ predicate hroute hpredicate =>
    obtain ⟨filter, w₁, hlink', -, hconsume⟩ :=
      linkEvent_ofChange_eq emitter route w hpredicate
    cases hlink.symm.trans hlink'
    refine World.RecordsAt.consume ?_ ⟨name, rfl⟩ hconsume
    exact .of_eq rfl
  | @probe name occurrence emitter span hoccurrence =>
    obtain ⟨w₁, w₂, hlink', hprobe, hconsume⟩ :=
      linkEvent_ofProbe_eq scope name occurrence.kind emitter w
    cases hlink.symm.trans hlink'
    refine World.RecordsAt.consume ?_ ⟨name, rfl⟩ hconsume
    rcases hprobe with rfl | ⟨fault, rfl⟩
    · exact .of_eq (World.failures_openProbe _ _ _)
    · exact .record (.of_eq (World.failures_openProbe _ _ _)) ⟨name, rfl⟩ fault

/-- The site of a monitor is not that of an event: its name is shorter. -/
theorem not_isEventSite (package : Option String) (index : SpaceIndex) (decl : Source.Monitor) :
    ¬ IsEventSite (monitorScope package index decl) (Naming.pascal decl.name ++ "::new") := by
  rintro ⟨event, hsame⟩
  have hlength := congrArg String.length hsame
  simp only [eventSite, MonitorScope.nestedName, monitorScope, String.length_append] at hlength
  have hevent : "Event".length = 5 := by decide
  omega

/-! ## Fields -/

/-- What is made of statements: for each event the next source, and no monitor. -/
structure Equips (scope : MonitorScope) (items : List MonitorItem) (members : MonitorMembers)
    (w : World) (members' : MonitorMembers) (w' : World) : Prop where
  grows : w.Grows (fun _ => True) w'
  monitors : w'.monitors = w.monitors
  records : w.RecordsAt (IsEventSite scope) w'
  events : ∃ more, members'.events = members.events ++ more ∧
    more.map (·.1) = items.filterMap eventName? ∧ (more.map (·.2)).Pairwise (· < ·) ∧
    ∀ event ∈ more, w.sources.length ≤ event.2 ∧ event.2 < w'.sources.length

theorem Equips.append {scope : MonitorScope} {first rest : List MonitorItem}
    {members₁ members₂ members₃ : MonitorMembers} {w₁ w₂ w₃ : World}
    (h : Equips scope first members₁ w₁ members₂ w₂)
    (h' : Equips scope rest members₂ w₂ members₃ w₃) :
    Equips scope (first ++ rest) members₁ w₁ members₃ w₃ := by
  obtain ⟨more, hmore, hmapped, hsorted, hbounds⟩ := h.events
  obtain ⟨more', hmore', hmapped', hsorted', hbounds'⟩ := h'.events
  have hle := h.grows.length_le
  have hle' := h'.grows.length_le
  refine ⟨h.grows.trans h'.grows, h'.monitors.trans h.monitors, h.records.trans h'.records,
    more ++ more', ?_, ?_, ?_, ?_⟩
  · rw [hmore', hmore, List.append_assoc]
  · rw [List.map_append, hmapped, hmapped', List.filterMap_append]
  · rw [List.map_append, List.pairwise_append]
    refine ⟨hsorted, hsorted', fun source hsource source' hsource' => ?_⟩
    obtain ⟨event, hevent, rfl⟩ := List.mem_map.mp hsource
    obtain ⟨event', hevent', rfl⟩ := List.mem_map.mp hsource'
    have hb := hbounds event hevent
    have hb' := hbounds' event' hevent'
    omega
  · intro event hevent
    rcases List.mem_append.mp hevent with hevent | hevent
    · have hb := hbounds event hevent
      omega
    · have hb := hbounds' event hevent
      omega

/-- Statements that add no source make no event. -/
theorem equips_of_no_event {scope : MonitorScope} {item : MonitorItem}
    {members members' : MonitorMembers} (w : World) (h : eventName? item = none)
    (hevents : members'.events = members.events) :
    Equips scope [item] members w members' w :=
  ⟨.refl _ w, rfl, .of_eq rfl, [], by simp [hevents], by simp [h], by simp, by simp⟩

/-- A source that was added is what is made of an event. -/
theorem equips_of_adds {scope : MonitorScope} {event : EventDecl} (members : MonitorMembers)
    {own : String → Prop} {w w' : World} (h : w.Adds own w')
    (hrecords : w.RecordsAt (IsEventSite scope) w') :
    Equips scope [.event event] members w
      { members with events := members.events ++ [(event.name, w.sources.length)] } w' := by
  refine ⟨h.grows.mono fun _ _ => trivial, h.monitors, hrecords, [(event.name, w.sources.length)],
    rfl, rfl, by simp, ?_⟩
  intro added hadded
  rw [List.mem_singleton.mp hadded]
  exact ⟨Nat.le_refl _, h.added⟩

section Fields

variable {package : Option String} {index : SpaceIndex} {decl : Source.Monitor} {b : Blueprint}
  {number : Nat} {bindings : Bindings}

theorem Made.equips {item : MonitorItem} {members members' : MonitorMembers} {w w' : World}
    (h : Made package index decl ⟨number, b, bindings⟩ item members w members' w') :
    Equips (monitorScope package index decl) [item] members w members' w' := by
  cases h with
  | value v value => exact equips_of_no_event w rfl rfl
  | schedule name cron span =>
    exact equips_of_adds members (World.adds_addSource (fun _ => True) w rfl rfl) (.of_eq rfl)
  | event event members hof hlink =>
    obtain ⟨w₁, hlink', hadds, -⟩ := linkEvent_isTypeOf hof w
    have hrecords := linkEvent_recordsAt hof hlink
    cases hlink.symm.trans hlink'
    exact equips_of_adds members hadds hrecords
  | handler handler members hkind hinterval hlink => exact equips_of_no_event w rfl rfl

theorem addFields_equips (h : IsLoweredFrom package index decl b) {items : List MonitorItem}
    {members members' : MonitorMembers} {w w' : World}
    (hfold : (items.filterMap (fieldOf? (monitorScope package index decl))).foldlM
      (addField ⟨number, b, bindings⟩) members w = (.ok members', w')) :
    Equips (monitorScope package index decl) items members w members' w' := by
  induction items generalizing members w with
  | nil =>
    cases hfold
    exact ⟨.refl _ _, rfl, .of_eq rfl, [], by simp⟩
  | cons item rest ih =>
    cases hfield : fieldOf? (monitorScope package index decl) item with
    | none =>
      have hnone : eventName? item = none := by
        rcases item with v | ⟨event, cron | ⟨occurrence, chain, specifier⟩, span⟩ | handler | source
        · rfl
        · cases hfield
        · cases hfield
        · rfl
        · rfl
      rw [List.filterMap_cons_none hfield] at hfold
      exact (equips_of_no_event w hnone rfl).append (ih hfold)
    | some field =>
      rw [List.filterMap_cons_some hfield, List.foldlM_cons] at hfold
      obtain ⟨members₁, w₁, hadd, hfold'⟩ := ok_of_bind hfold
      exact (addField_eq_ok h hfield hadd).equips.append (ih hfold')

/-- The field of a statement is made, that of a variable when the variable has a value. -/
theorem addField_succeeds (h : IsLoweredFrom package index decl b)
    (hvalues : ∀ v, .variable v ∈ decl.body → Succeeds
      (bindings.initial (Source.qualify package decl.name ++ "." ++ v.name) v.initializer))
    {item : MonitorItem} (hitem : item ∈ decl.body) {field : Field}
    (hfield : fieldOf? (monitorScope package index decl) item = some field)
    (members : MonitorMembers) (w : World) :
    ∃ members' w', addField ⟨number, b, bindings⟩ members field w = (.ok members', w') := by
  rcases item with v | ⟨event, cron | ⟨occurrence, chain, specifier⟩, span⟩ | handler | source
  · cases hfield
    obtain ⟨value, hvalue⟩ := hvalues v hitem
    rw [← h.qualifiedName] at hvalue
    have hgiven : Link.ofExcept (b.qualifiedName ++ "." ++ v.name)
        (bindings.initial (b.qualifiedName ++ "." ++ v.name) v.initializer) w = (.ok value, w) := by
      rw [hvalue]
      rfl
    exact ⟨_, w, (bind_of_ok hgiven).trans rfl⟩
  · cases hfield
    exact ⟨_, _, rfl⟩
  · cases hfield
    obtain ⟨t, hfound⟩ := h.exists_nested? hitem rfl
    have hof : IsTypeOf (monitorScope package index decl) (.event (namesake decl.body
        ⟨event, .typed occurrence chain specifier, span⟩)) t := isTypeOf_namesake h rfl hfound
    obtain ⟨w', hlink, -⟩ := linkEvent_isTypeOf hof w
    refine ⟨{ members with events := members.events ++ [(event, w.sources.length)] }, w', ?_⟩
    unfold addField eventField
    simp only []
    rw [bind_of_ok (nestedType_of_some hfound w), bind_of_ok hlink]
    rfl
  · obtain ⟨kind, hkind, rfl⟩ := Option.map_eq_some_iff.mp hfield
    have htype : typeName? (monitorScope package index decl) (.handler handler) =
        some (Blueprint.ofHandler (monitorScope package index decl) handler kind).name := by
      simp [typeName?, hkind]
    obtain ⟨t, hfound⟩ := h.exists_nested? hitem htype
    obtain ⟨other, kind', rfl, -⟩ := ofHandler_of_nested? h hfound
    obtain ⟨made, hlink, -⟩ := linkHandler_ofHandler (monitorScope package index decl)
      ⟨number, b, bindings⟩ other kind' w
    refine ⟨{ members with handlers := Sorted.insert handler.name made members.handlers }, w, ?_⟩
    unfold addField
    simp only []
    rw [bind_of_ok (nestedType_of_some hfound w), bind_of_ok hlink]
    rfl
  · cases hfield

theorem addFields_succeed (h : IsLoweredFrom package index decl b)
    (hvalues : ∀ v, .variable v ∈ decl.body → Succeeds
      (bindings.initial (Source.qualify package decl.name ++ "." ++ v.name) v.initializer))
    {items : List MonitorItem} (hitems : ∀ item ∈ items, item ∈ decl.body)
    (members : MonitorMembers) (w : World) :
    ∃ members' w', (items.filterMap (fieldOf? (monitorScope package index decl))).foldlM
      (addField ⟨number, b, bindings⟩) members w = (.ok members', w') := by
  induction items generalizing members w with
  | nil => exact ⟨members, w, rfl⟩
  | cons item rest ih =>
    have hrest : ∀ other ∈ rest, other ∈ decl.body :=
      fun other hother => hitems other (List.mem_cons_of_mem _ hother)
    cases hfield : fieldOf? (monitorScope package index decl) item with
    | none =>
      rw [List.filterMap_cons_none hfield]
      exact ih hrest members w
    | some field =>
      rw [List.filterMap_cons_some hfield, List.foldlM_cons]
      obtain ⟨members₁, w₁, hadd⟩ :=
        addField_succeeds h hvalues (hitems item List.mem_cons_self) hfield members w
      obtain ⟨members', w', hfold⟩ := ih hrest members₁ w₁
      exact ⟨members', w', (bind_of_ok hadd).trans hfold⟩

end Fields

/-! ## Added monitors -/

/-- A monitor was added to an orderly world, and its constructor has not run yet. -/
structure Starts (package : Option String) (decl : Source.Monitor) (bindings : Bindings) (w : World)
    (m : Monitor) (w' : World) : Prop where
  monitors : w'.monitors = w.monitors ++ [m]
  name : m.qualifiedName = Source.qualify package decl.name
  bindings : m.bindings = bindings
  registry : m.registry = w.spaces
  begun : m.IsBegun decl.usings (codeCount decl.body)
  events : m.events.map (·.1) = decl.body.filterMap eventName?
  sources : (m.events.map (·.2)).Nodup
  orderly : w'.IsOrderly
  apart : w'.IsApart w.monitors.length
  inStep : w'.InStep w.monitors.length
  journal : w'.journal = w.journal
  failures : w'.failuresAt (Naming.pascal decl.name ++ "::new") =
    w.failuresAt (Naming.pascal decl.name ++ "::new")

theorem Starts.monitor {package : Option String} {decl : Source.Monitor} {bindings : Bindings}
    {w w' : World} {m : Monitor} (h : Starts package decl bindings w m w') :
    w'.monitors[w.monitors.length]? = some m := by
  rw [h.monitors]
  exact List.getElem?_concat_length

section Monitors

variable {package : Option String} {index : SpaceIndex} {decl : Source.Monitor} {b : Blueprint}

/-- A new monitor is as it should be before its constructor runs. -/
theorem newMonitor_isBegun (hlower : Blueprint.ofMonitor package index decl = .ok b)
    (hcheck : Members.checkMonitor index decl = .ok ()) (bindings : Bindings)
    (members : MonitorMembers) (registry : List (String × Handle)) :
    (newMonitor b bindings members registry).IsBegun decl.usings (codeCount decl.body) := by
  have h := isLoweredFrom_of_ofMonitor hlower
  obtain ⟨-, hfree⟩ := names_of_checkMonitor hcheck
  obtain ⟨hbinding, -, -⟩ :=
    h.find_method fun name hname => hfree name (List.mem_append_right _ hname)
  refine ⟨rfl, ?_, fun i hi => ?_⟩
  · unfold Monitor.method newMonitor initializeMethod
    simp only [hbinding]
  · obtain ⟨source, hcode⟩ := h.find_code hcheck ((constructor_of_ofMonitor hlower).2 i hi)
    refine ⟨source, ?_⟩
    unfold Monitor.method newMonitor
    simp only [hcode]

/-- A monitor whose fields were made is added with sources that run and are its own. -/
theorem starts_of_equips (hlower : Blueprint.ofMonitor package index decl = .ok b)
    (hcheck : Members.checkMonitor index decl = .ok ()) (bindings : Bindings)
    {members : MonitorMembers} {w w₁ : World} (hw : w.IsOrderly)
    (h : Equips (monitorScope package index decl) decl.body {} w members w₁) :
    Starts package decl bindings w (newMonitor b bindings members w₁.spaces)
      { w₁ with monitors := w₁.monitors ++ [newMonitor b bindings members w₁.spaces] } := by
  have hlowered := isLoweredFrom_of_ofMonitor hlower
  obtain ⟨more, hmore, hmapped, hsorted, hbounds⟩ := h.events
  rw [List.nil_append] at hmore
  subst hmore
  have hfresh : (newMonitor b bindings members w₁.spaces).IsFresh w.sources.length
      w₁.sources.length :=
    ⟨newMonitor_isSteered hlowered hcheck bindings w₁.spaces hmapped, rfl, rfl, hbounds⟩
  refine ⟨by rw [h.monitors], hlowered.qualifiedName, rfl, h.grows.spaces,
    newMonitor_isBegun hlower hcheck bindings members w₁.spaces, hmapped, hsorted.imp Nat.ne_of_lt,
    hw.addMonitor h.grows h.monitors hfresh, hw.isApart_addMonitor h.monitors hfresh,
    World.inStep_addMonitor h.grows h.monitors hfresh, h.grows.journal,
    h.records.failuresAt_eq (not_isEventSite package index decl)⟩

/-- The fields of a monitor that were made start it. -/
theorem starts_of_fields (hlower : Blueprint.ofMonitor package index decl = .ok b)
    (hcheck : Members.checkMonitor index decl = .ok ()) {bindings : Bindings} {number : Nat}
    {members : MonitorMembers} {w w₁ : World} (hw : w.IsOrderly)
    (hfields : b.fields.foldlM (addField ⟨number, b, bindings⟩) {} w = (.ok members, w₁)) :
    Starts package decl bindings w (newMonitor b bindings members w₁.spaces)
      { w₁ with monitors := w₁.monitors ++ [newMonitor b bindings members w₁.spaces] } := by
  have h := isLoweredFrom_of_ofMonitor hlower
  rw [foldlM_fields h] at hfields
  exact starts_of_equips hlower hcheck bindings hw (addFields_equips h hfields)

/-- The fields of a monitor are made when its variables have values. -/
theorem fields_succeed (h : IsLoweredFrom package index decl b) {bindings : Bindings}
    (hvalues : ∀ v, .variable v ∈ decl.body → Succeeds
      (bindings.initial (Source.qualify package decl.name ++ "." ++ v.name) v.initializer))
    (number : Nat) (w : World) : ∃ members w₁,
      b.fields.foldlM (addField ⟨number, b, bindings⟩) {} w = (.ok members, w₁) := by
  rw [foldlM_fields h]
  exact addFields_succeed h hvalues (fun _ hitem => hitem) {} w

end Monitors

end Linking

end Watchtower
