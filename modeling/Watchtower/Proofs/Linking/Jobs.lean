-- The jobs of linked monitors. All monitors of a system share one schedule, and a job has the
-- names of its event and its handler but not that of its monitor. So a subscription to a periodic
-- event hangs on what other monitors have subscribed.
import Watchtower.Linking.System
import Watchtower.Proofs.Linking.Wiring
import Watchtower.Proofs.Live.Subscription

namespace Watchtower.Linking

open Live
open Source (MonitorItem SourceUnit)

/-! ## Systems -/

/-- All monitors of a system are joined, and stay so while others are linked after them. -/
theorem linkMonitors_joins {bindings : Bindings} {bs : List Blueprint}
    (hbs : ∀ b ∈ bs, b.kind = .monitor → ∃ package index decl,
      Report.outcome true package index (.monitor decl) = .ok b) {w w' : World} {numbers : List Nat}
    (h : linkMonitors bindings bs w = (.ok numbers, w')) :
    w.Keeps w' ∧ ∀ b ∈ bs, ∀ package index decl,
      Report.outcome true package index (.monitor decl) = .ok b →
        ∃ n ∈ numbers, ∃ m, w'.monitors[n]? = some m ∧
          IsJoined (Source.qualify package decl.name) decl.body w' m := by
  -- On the blueprints: a monitor that was linked keeps its wiring while the others are linked.
  induction bs generalizing w numbers with
  | nil =>
    cases h
    exact ⟨.refl _, nofun⟩
  | cons first rest ih =>
    have hrest := fun {w₁ : World} {others : List Nat}
        (hlink : linkMonitors bindings rest w₁ = (.ok others, w')) =>
      ih (fun b hb => hbs b (List.mem_cons_of_mem _ hb)) hlink
    by_cases hkind : first.kind = .monitor
    · obtain ⟨number, others, w₁, hfirst, hothers, rfl⟩ := linkMonitors_cons_eq_ok hkind h
      obtain ⟨hkeeps', hjoined'⟩ := hrest hothers
      have hjoins : ∀ package index decl, Report.outcome true package index (.monitor decl) =
          .ok first → w.Keeps w₁ ∧ ∃ m, w₁.monitors[number]? = some m ∧
            IsJoined (Source.qualify package decl.name) decl.body w₁ m := by
        intro package index decl hout
        obtain ⟨hcheck, hlower⟩ := outcome_eq_ok.mp hout
        exact linkMonitor_joins (isLoweredFrom_of_ofMonitor hlower) hcheck hfirst
      obtain ⟨_, _, _, hfirst'⟩ := hbs first List.mem_cons_self hkind
      refine ⟨(hjoins _ _ _ hfirst').1.trans hkeeps', ?_⟩
      intro b hb package index decl hout
      rcases List.mem_cons.mp hb with rfl | hb
      · obtain ⟨-, m, hm, hjoined⟩ := hjoins package index decl hout
        obtain ⟨m', hm', hsame⟩ := hkeeps'.monitor hm
        exact ⟨number, List.mem_cons_self, m', hm', hjoined.keeps hkeeps' hsame⟩
      · obtain ⟨n, hn, found⟩ := hjoined' b hb package index decl hout
        exact ⟨n, List.mem_cons_of_mem _ hn, found⟩
    · rw [linkMonitors_cons_of_other hkind] at h
      obtain ⟨hkeeps, hjoined⟩ := hrest h
      refine ⟨hkeeps, ?_⟩
      intro b hb package index decl hout
      rcases List.mem_cons.mp hb with rfl | hb
      · exact absurd (isLoweredFrom_of_ofMonitor (outcome_eq_ok.mp hout).2).kind hkind
      · exact hjoined b hb package index decl hout

/-- Each accepted monitor of a linked system is joined. -/
theorem linkAll_joins {units : List SourceUnit} {bindings : Bindings} {store : Nat} {w₀ w : World}
    {numbers : List Nat}
    (hlink : linkAll bindings store (Report.ofUnits units true).blueprints w₀ = (.ok numbers, w))
    {unit : SourceUnit} (hunit : unit ∈ units) {decl : Source.Monitor}
    (hdecl : .monitor decl ∈ unit.declarations)
    (haccepted : (Report.outcome true unit.package (SpaceIndex.ofUnits units)
      (.monitor decl)).isOk) :
    ∃ n ∈ numbers, ∃ m, w.monitors[n]? = some m ∧
      IsJoined (unit.qualify decl.name) decl.body w m := by
  obtain ⟨b, hout⟩ := isOk_iff_succeeds.mp haccepted
  obtain ⟨_, w₁, -, hmonitors⟩ := ok_of_bind hlink
  have hlowered : ∀ b ∈ (Report.ofUnits units true).blueprints, b.kind = .monitor →
      ∃ package index decl, Report.outcome true package index (.monitor decl) = .ok b := by
    intro b hb hkind
    obtain ⟨unit, -, decl, -, hout⟩ := mem_blueprints.mp hb
    cases decl with
    | monitor decl => exact ⟨_, _, decl, hout⟩
    | space decl =>
      cases (outcome_eq_ok.mp hout).2
      cases hkind
  exact (linkMonitors_joins hlowered hmonitors).2 b
    (mem_blueprints.mpr ⟨unit, hunit, _, hdecl, hout⟩) _ _ decl hout

/-- A periodic event of a joined monitor has a source with its name and its expression. -/
theorem IsJoined.periodic {monitor event cron : String} {body : List MonitorItem}
    {span : Option Source.Span} {w : World} {m : Live.Monitor} (h : IsJoined monitor body w m)
    (hevent : .event ⟨event, .periodic cron, span⟩ ∈ body) :
    ∃ source s, m.event event = .ok source ∧ w.sources[source]? = some s ∧ s.name = event ∧
      s.trigger = .schedule cron := by
  -- Such an event is its own namesake, since it has no type.
  obtain ⟨source, hfound, s, hs, hname, hraised, -⟩ := h.events _ hevent
  refine ⟨source, s, hfound, hs, hname, ?_⟩
  have hschedule : IsRaisedBy (.periodic cron) s.trigger := hraised
  generalize s.trigger = trigger at hschedule ⊢
  cases hschedule
  rfl

/-! ## The law -/

/-- The name of a job is taken after subscriptions: it was before, or one of them took it. -/
def IsTaken (w : World) (subs : List Subscription) (id : String) : Prop :=
  id ∈ w.schedule.ids ∨ ∃ sub ∈ subs, w.wiring.jobName? sub = some id

/-- The accepted declarations of units are linked, with whatever user code, and handlers of any of
the monitors are subscribed. Then a handler of intervals of a monitor is subscribed to a periodic
event of it with a well-formed expression, unless their two names are taken as the name of a job.
No matter which monitor took them, the subscription fails for that. -/
theorem a_periodic_subscription_succeeds_unless_its_job_is_taken {units : List SourceUnit}
    {bindings : Bindings} {store : Nat} {w₀ w : World} {numbers : List Nat}
    (hlink : linkAll bindings store (Report.ofUnits units true).blueprints w₀ = (.ok numbers, w))
    {unit : SourceUnit} (hunit : unit ∈ units) {decl : Source.Monitor}
    (hdecl : .monitor decl ∈ unit.declarations)
    (haccepted : (Report.outcome true unit.package (SpaceIndex.ofUnits units)
      (.monitor decl)).isOk) :
    ∃ n ∈ numbers, w.monitors[n]?.map (·.qualifiedName) = some (unit.qualify decl.name) ∧
      ∀ event cron span handler, .event ⟨event, .periodic cron, span⟩ ∈ decl.body →
        (Cron.parse cron).isOk → .handler handler ∈ decl.body →
        EventKind.ofTypeName? handler.paramType = some .interval →
        w.wiring.jobName? ⟨n, event, handler.name⟩ = some (event ++ "." ++ handler.name) ∧
        ∀ subs w', w.subscribeAll subs = .ok w' →
          (¬ IsTaken w subs (event ++ "." ++ handler.name) →
            Succeeds (w'.subscribe n event handler.name)) ∧
          (IsTaken w subs (event ++ "." ++ handler.name) →
            w'.subscribe n event handler.name =
              .error (.duplicateJob (event ++ "." ++ handler.name))) := by
  obtain ⟨n, hn, m, hm, hjoined⟩ := linkAll_joins hlink hunit hdecl haccepted
  refine ⟨n, hn, by rw [hm, Option.map_some, hjoined.name], ?_⟩
  intro event cron span handler hevent hcron hhandler hkind
  refine ⟨?_, fun subs w' hsubs => ?_⟩
  · obtain ⟨source, s, hfound, hs, hname, htrigger⟩ := hjoined.periodic hevent
    rw [World.jobName?_eq hm hfound hs, hname]
    simp [Live.Source.isPeriodic, htrigger]
  · obtain ⟨hwiring, hids⟩ := World.subscribeAll_eq_ok hsubs
    obtain ⟨m', hm', hsame⟩ := (World.Keeps.of_eq hwiring).monitor hm
    have hjoined' := hjoined.keeps (.of_eq hwiring) hsame
    obtain ⟨source, s, hfound, hs, hname, htrigger⟩ := hjoined'.periodic hevent
    obtain ⟨task, htask⟩ := hjoined'.jobs handler hhandler hkind
    have hjob := World.subscribe_job hm' hfound htask hs htrigger
      (isOk_iff_succeeds.mp hcron)
    rw [hname, hids] at hjob
    exact hjob

/-- A monitor with a handler for the intervals of a periodic event. -/
def tickMonitor (name : String) : Source.Monitor :=
  ⟨name, [], [
    .event ⟨"tick", .periodic "* * * * *", none⟩,
    .handler ⟨"onTick", "e", "IntervalEvent", "", none, none⟩], none⟩

/-- Two monitors that differ in nothing but their names. -/
def tickUnits : List SourceUnit :=
  [⟨some "demo", [.monitor (tickMonitor "First"), .monitor (tickMonitor "Second")]⟩]

/-- The two monitors linked without user code, with their numbers. -/
def tickSystem : Except Refusal (List Nat) × World :=
  linkAll {} 0 (Report.ofUnits tickUnits true).blueprints { stores := [.memory []] }

theorem tickSystem_eq_ok : tickSystem = (.ok [0, 1], tickSystem.2) :=
  eq_of_fst_toOption (by decide +kernel)

theorem a_tick_is_subscribed_unless_its_job_is_taken :
    ∃ n ∈ [0, 1], tickSystem.2.monitors[n]?.map (·.qualifiedName) = some "demo.Second" ∧
      ∀ subs w', tickSystem.2.subscribeAll subs = .ok w' →
        (¬ IsTaken tickSystem.2 subs "tick.onTick" → Succeeds (w'.subscribe n "tick" "onTick")) ∧
        (IsTaken tickSystem.2 subs "tick.onTick" →
          w'.subscribe n "tick" "onTick" = .error (.duplicateJob "tick.onTick")) := by
  have haccepted : (Report.outcome true (some "demo") (SpaceIndex.ofUnits tickUnits)
      (.monitor (tickMonitor "Second"))).isOk = true := by decide +kernel
  have hcron : (Cron.parse "* * * * *").isOk = true := by decide +kernel
  have hqualified : Source.qualify (some "demo") "Second" = "demo.Second" := by decide +kernel
  obtain ⟨n, hn, hname, hevents⟩ := a_periodic_subscription_succeeds_unless_its_job_is_taken
    tickSystem_eq_ok List.mem_cons_self (List.mem_cons_of_mem _ List.mem_cons_self) haccepted
  obtain ⟨-, hsubs⟩ := hevents "tick" "* * * * *" none _ List.mem_cons_self hcron
    (List.mem_cons_of_mem _ List.mem_cons_self) (by decide)
  exact ⟨n, hn, hname.trans (congrArg some hqualified), hsubs⟩

/-- The second of two monitors that were accepted and linked cannot subscribe its handler once the
first has subscribed its own. -/
theorem the_tick_of_another_monitor_takes_the_job :
    tickSystem = (.ok [0, 1], tickSystem.2) ∧
      tickSystem.2.monitors.map (·.qualifiedName) = ["demo.First", "demo.Second"] ∧
      ∃ w', tickSystem.2.subscribeAll [⟨0, "tick", "onTick"⟩] = .ok w' ∧
        w'.subscribe 1 "tick" "onTick" = .error (.duplicateJob "tick.onTick") := by
  have htaken : (tickSystem.2.subscribeAll [⟨0, "tick", "onTick"⟩]).toOption.map
      (fun w' => (w'.subscribe 1 "tick" "onTick").map fun _ => ()) =
        some (.error (.duplicateJob "tick.onTick")) := by
    decide +kernel
  obtain ⟨w', hfirst, hsecond⟩ := Option.map_eq_some_iff.mp htaken
  refine ⟨tickSystem_eq_ok, by decide +kernel, w', toOption_eq_some_iff.mp hfirst, ?_⟩
  cases hout : w'.subscribe 1 "tick" "onTick" with
  | ok again =>
    rw [hout] at hsecond
    cases hsecond
  | error fault =>
    rw [hout] at hsecond
    cases hsecond
    rfl

end Watchtower.Linking
