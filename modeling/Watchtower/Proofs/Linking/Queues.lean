-- The queues of events. The queue of a probe event has the name of its monitor and its own, that
-- of a change event also the names that lead to its variable, and all of them are joined by dots.
-- They are told apart all the same, so on a bus that is still empty each event finds its queue
-- free.
import Mathlib.Data.List.Perm.Subperm
import Watchtower.Proofs.Order.Members

namespace Watchtower.Linking

open Live
open Source (MonitorItem)
open Text (Undotted)

/-! ## Events on an empty bus -/

/-- The type of an event whose queue is free is linked, its consumer is started, and no failure is
recorded. -/
theorem linkEvent_starts {scope : MonitorScope} {event : Source.EventDecl} {t : Blueprint}
    (h : IsTypeOf scope (.event event) t) {listed : List Binding} {w : World}
    (hw : w.Provides True listed) (hqueues : ((listed ++ t.bindings).map (·.queue)).Nodup) :
    ∃ number w', linkEvent t w = (.ok number, w') ∧ w'.failures = w.failures ∧
      w'.Provides True (listed ++ t.bindings) := by
  have hbinding : t.bindings = (EventEntry.ofDeclared scope event).binding.toList := h.bindings
  rw [hbinding] at hqueues ⊢
  have hfree : ∀ r, (EventEntry.ofDeclared scope event).binding = some r →
      r.queue ∉ listed.map (·.queue) := by
    intro r hr hmem
    rw [hr, List.map_append] at hqueues
    exact (List.nodup_append.mp hqueues).2.2 _ hmem r.queue List.mem_cons_self rfl
  obtain ⟨view, hshows⟩ := linkEvent_shows h
  obtain ⟨w', hlink, hadds⟩ := hshows hw hfree
  exact ⟨_, w', hlink, hadds.failures, linkEvent_provides h hlink hw hfree⟩

/-- Types of events with queues of their own are linked one after the other. -/
theorem linkEvents_start {types : List Blueprint}
    (htypes : ∀ t ∈ types, ∃ scope event, IsTypeOf scope (.event event) t)
    {listed : List Binding} {w : World} (hw : w.Provides True listed)
    (hqueues : ((listed ++ types.flatMap Blueprint.bindings).map (·.queue)).Nodup) :
    ∃ numbers w', types.mapM linkEvent w = (.ok numbers, w') ∧ w'.failures = w.failures ∧
      w'.Provides True (listed ++ types.flatMap Blueprint.bindings) := by
  induction types generalizing listed w with
  | nil => exact ⟨[], w, rfl, rfl, by simpa using hw⟩
  | cons t rest ih =>
    rw [List.flatMap_cons, ← List.append_assoc] at hqueues ⊢
    obtain ⟨scope, event, hof⟩ := htypes t List.mem_cons_self
    obtain ⟨number, w₁, hlink, hfailures, hw₁⟩ := linkEvent_starts hof hw
      (hqueues.sublist ((List.sublist_append_left _ _).map _))
    obtain ⟨numbers, w₂, hrest, hfailures₂, hw₂⟩ :=
      ih (fun other hother => htypes other (List.mem_cons_of_mem _ hother)) hw₁ hqueues
    refine ⟨number :: numbers, w₂, ?_, hfailures₂.trans hfailures, hw₂⟩
    rw [List.mapM_cons, bind_of_ok hlink, bind_of_ok hrest]
    rfl

/-! ## The law -/

/-- Monitors that were accepted in one package, with the blueprints to which they were lowered. -/
def AreAccepted (package : Option String) (index : SpaceIndex) (decls : List Source.Monitor)
    (bs : List Blueprint) : Prop :=
  List.Forall₂ (fun decl b => Report.outcome true package index (.monitor decl) = .ok b) decls bs

section Accepted

variable {package : Option String} {index : SpaceIndex} {decls : List Source.Monitor}
  {bs : List Blueprint}

theorem AreAccepted.isLoweredFrom (h : AreAccepted package index decls bs) {b : Blueprint}
    (hb : b ∈ bs) : ∃ decl ∈ decls, Report.outcome true package index (.monitor decl) = .ok b ∧
      IsLoweredFrom package index decl b := by
  obtain ⟨decl, hdecl, hout⟩ := exists_of_forall₂_right h hb
  exact ⟨decl, hdecl, hout, isLoweredFrom_of_ofMonitor (outcome_eq_ok.mp hout).2⟩

/-- The constructors ask for the bindings of the declared events. -/
theorem AreAccepted.bindings (h : AreAccepted package index decls bs) :
    bs.flatMap Blueprint.bindings = decls.flatMap (bindingsOf package index) :=
  flatMap_of_forall₂ h fun _ _ hout =>
    (isLoweredFrom_of_ofMonitor (outcome_eq_ok.mp hout).2).bindings

theorem AreAccepted.nodup_queues (h : AreAccepted package index decls bs)
    (hnames : (decls.map (·.name)).Nodup)
    (hdots : ∀ decl ∈ decls, ∀ name ∈ decl.name :: decl.body.filterMap eventName?, Undotted name) :
    ((bs.flatMap Blueprint.bindings).map (·.queue)).Nodup := by
  rw [h.bindings]
  refine nodup_queues_of_monitors hnames (fun decl hdecl => hdots decl hdecl _ List.mem_cons_self)
    (fun decl hdecl name hname => hdots decl hdecl name (List.mem_cons_of_mem _ hname))
    fun decl hdecl => ?_
  obtain ⟨b, -, hout⟩ := exists_of_forall₂_right h.flip hdecl
  exact eventNames_of_outcome hout

/-- Any types of events, each taken once, have queues of their own where all of them have. -/
theorem nodup_queues_of_types (hqueues : ((bs.flatMap Blueprint.bindings).map (·.queue)).Nodup)
    {types : List Blueprint} (hnodup : types.Nodup)
    (htypes : ∀ t ∈ types, t ∈ bs.flatMap Blueprint.eventTypes) :
    ((types.flatMap Blueprint.bindings).map (·.queue)).Nodup := by
  obtain ⟨chosen, hperm, hsublist⟩ := List.subperm_of_subset hnodup htypes
  have hall : ((bs.flatMap Blueprint.eventTypes).flatMap Blueprint.bindings).Sublist
      (bs.flatMap Blueprint.bindings) := by
    rw [List.flatMap_assoc]
    exact List.Sublist.flatMap_right bs fun b _ => b.sublist_bindings
  have hchosen := hqueues.sublist (((hsublist.flatMap _).trans hall).map (·.queue))
  exact ((hperm.flatMap_right _).map _).nodup_iff.mp hchosen

end Accepted

/-- Monitors of one package whose names are told apart, with names of monitors and events without
dots, were accepted. Then no two of the consumers that their constructors start take from one queue.
So on a bus on which nothing was bound the types of their events can be linked, each once and in any
order: each gets its consumer, and no failure is recorded. And where the types of the events have
names of their own, the monitors that are linked as a whole start each consumer once. -/
theorem the_events_of_accepted_monitors_have_queues_of_their_own {package : Option String}
    {index : SpaceIndex} {decls : List Source.Monitor} {bs : List Blueprint}
    (haccepted : AreAccepted package index decls bs) (hnames : (decls.map (·.name)).Nodup)
    (hdots : ∀ decl ∈ decls, ∀ name ∈ decl.name :: decl.body.filterMap eventName?, Undotted name) :
    ((bs.flatMap Blueprint.bindings).map (·.queue)).Nodup ∧
    (∀ (types : List Blueprint) (w : World), types.Nodup →
      (∀ t ∈ types, t ∈ bs.flatMap Blueprint.eventTypes) →
      w.bus.bindings = [] → w.consumers = [] →
      ∃ numbers w', types.mapM linkEvent w = (.ok numbers, w') ∧ w'.failures = w.failures ∧
        w'.bus.bindings.map Binding.listed = types.flatMap Blueprint.bindings) ∧
    ∀ (bindings : Bindings) (w w' : World) (numbers : List Nat),
      (∀ b ∈ bs, (b.eventTypes.map (·.name)).Nodup) →
      w.bus.bindings = [] → w.consumers = [] → w.monitors = [] →
      linkMonitors bindings bs w = (.ok numbers, w') →
      w'.consumers.map (·.config.listed) = bs.flatMap Blueprint.bindings := by
  have hqueues := haccepted.nodup_queues hnames hdots
  refine ⟨hqueues, ?_, ?_⟩
  · intro types w hnodup htypes hbus hconsumers
    have hof : ∀ t ∈ types, ∃ scope event, IsTypeOf scope (.event event) t := by
      intro t ht
      obtain ⟨b, hb, hevent⟩ := List.mem_flatMap.mp (htypes t ht)
      obtain ⟨decl, -, -, h⟩ := haccepted.isLoweredFrom hb
      obtain ⟨event, -, hof⟩ := h.exists_event hevent
      exact ⟨_, event, hof⟩
    obtain ⟨numbers, w', hlink, hfailures, hprovides⟩ :=
      linkEvents_start hof (World.provides_nil hbus hconsumers True)
        (nodup_queues_of_types hqueues hnodup htypes)
    exact ⟨numbers, w', hlink, hfailures, hprovides.bound_eq trivial⟩
  · intro bindings w w' numbers hown hbus hconsumers hmonitors hlink
    have horderly : w.IsOrderly := by
      intro m hm
      rw [hmonitors] at hm
      cases hm
    have hplain : ∀ b ∈ bs, b.kind = .monitor → IsPlainlyTyped b := by
      intro b hb _
      obtain ⟨decl, -, hout, h⟩ := haccepted.isLoweredFrom hb
      have htypes := hown b hb
      rw [h.names_eventTypes] at htypes
      exact ⟨package, index, decl, hout, areOwnNamesakes_of_eventTypes htypes⟩
    have hall : monitorsOf bs = bs := by
      refine List.filter_eq_self.mpr fun b hb => ?_
      obtain ⟨decl, -, -, h⟩ := haccepted.isLoweredFrom hb
      exact decide_eq_true h.kind
    have hprovides := linkMonitors_provides id hplain hlink horderly
      (World.provides_nil hbus hconsumers bindings.IsCalm) (by rw [hall]; exact hqueues)
    rw [hall] at hprovides
    exact hprovides.started

/-- A monitor with an event on a path, and one with an event on the root of it. -/
def pathMonitor : Source.Monitor :=
  ⟨"Perf", [], [
    .event ⟨"hot", .typed .change (.chain ["cpu", "load"]) none, none⟩,
    .event ⟨"tick", .periodic "* * * * *", none⟩,
    .event ⟨"cpu", .typed .change (.chain ["cpu"]) none, none⟩], none⟩

/-- A monitor that is named like the package, with events that are named like the other monitor and
an event of it. -/
def echoMonitor : Source.Monitor :=
  ⟨"demo", [], [
    .event ⟨"Perf", .typed .invoke (.source "f()") none, none⟩,
    .event ⟨"hot", .typed .change (.chain ["Perf", "hot"]) none, none⟩], none⟩

theorem the_events_of_a_package_and_its_namesake_have_queues_of_their_own :
    ∃ first second, AreAccepted (some "demo") {} [pathMonitor, echoMonitor] [first, second] ∧
      [first, second].flatMap Blueprint.bindings = [
        ⟨"cpu", "cpu", "demo.Perf.hot.cpu.load"⟩,
        ⟨"cpu", "cpu", "demo.Perf.cpu.cpu"⟩,
        ⟨"vigil.probes", "demo.demo.Perf", "demo.demo.Perf"⟩,
        ⟨"Perf", "Perf", "demo.demo.hot.Perf.hot"⟩] ∧
      (([first, second].flatMap Blueprint.bindings).map (·.queue)).Nodup ∧
      (∃ numbers w', (second.eventTypes ++ first.eventTypes).mapM linkEvent {} = (.ok numbers, w') ∧
        w'.failures = [] ∧ w'.bus.bindings.map Binding.listed =
          (second.eventTypes ++ first.eventTypes).flatMap Blueprint.bindings) ∧
      ∃ numbers w', linkMonitors {} [first, second] {} = (.ok numbers, w') ∧
        w'.consumers.map (·.config.listed) = [first, second].flatMap Blueprint.bindings := by
  obtain ⟨first, hfirst⟩ := isOk_iff_succeeds.mp (show (Report.outcome true (some "demo") {}
    (.monitor pathMonitor)).isOk = true by decide +kernel)
  obtain ⟨second, hsecond⟩ := isOk_iff_succeeds.mp (show (Report.outcome true (some "demo") {}
    (.monitor echoMonitor)).isOk = true by decide +kernel)
  have haccepted : AreAccepted (some "demo") {} [pathMonitor, echoMonitor] [first, second] :=
    .cons hfirst (.cons hsecond .nil)
  have hbs : lowerAll (some "demo") {} [.monitor pathMonitor, .monitor echoMonitor] =
      [first, second] := by
    rw [lowerAll_cons_of_ok hfirst, lowerAll_cons_of_ok hsecond]
    rfl
  obtain ⟨hqueues, hevents, hmonitors⟩ :=
    the_events_of_accepted_monitors_have_queues_of_their_own haccepted (by decide) (by decide)
  have hbindings : (lowerAll (some "demo") {} [.monitor pathMonitor, .monitor echoMonitor]).flatMap
      Blueprint.bindings = [
        ⟨"cpu", "cpu", "demo.Perf.hot.cpu.load"⟩,
        ⟨"cpu", "cpu", "demo.Perf.cpu.cpu"⟩,
        ⟨"vigil.probes", "demo.demo.Perf", "demo.demo.Perf"⟩,
        ⟨"Perf", "Perf", "demo.demo.hot.Perf.hot"⟩] := by decide +kernel
  have htypes : ((lowerAll (some "demo") {} [.monitor pathMonitor, .monitor echoMonitor]).map
      fun b => b.eventTypes.map (·.name)) =
        [["PerfHotEvent", "PerfCpuEvent"], ["DemoPerfEvent", "DemoHotEvent"]] := by decide +kernel
  have hlinked : (linkMonitors {} (lowerAll (some "demo") {} [.monitor pathMonitor,
      .monitor echoMonitor]) {}).1.toOption = some [0, 1] := by decide +kernel
  rw [hbs] at hbindings htypes hlinked
  simp only [List.map_cons, List.map_nil, List.cons.injEq, and_true] at htypes
  obtain ⟨hfirstTypes, hsecondTypes⟩ := htypes
  refine ⟨first, second, haccepted, hbindings, hqueues, ?_, ?_⟩
  · refine hevents _ {} ?_ ?_ rfl rfl
    · apply nodup_of_map (f := (·.name))
      rw [List.map_append, hfirstTypes, hsecondTypes]
      decide
    · intro t ht
      simpa [or_comm] using ht
  · have hlink := eq_of_fst_toOption hlinked
    refine ⟨_, _, hlink, hmonitors {} {} _ _ ?_ rfl rfl rfl hlink⟩
    intro b hb
    simp only [List.mem_cons, List.not_mem_nil, or_false] at hb
    rcases hb with rfl | rfl
    · rw [hfirstTypes]
      decide
    · rw [hsecondTypes]
      decide

end Watchtower.Linking
