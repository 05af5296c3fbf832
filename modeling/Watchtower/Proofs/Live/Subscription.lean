-- Subscriptions to schedules. Each of them schedules a job under the names of its source and its
-- handler, and whoever comes second with these names finds them taken.
import Watchtower.Proofs.Live.Frame
import Watchtower.Proofs.Tables

namespace Watchtower.Live

/-! ## Schedules -/

namespace Schedule

theorem mem_ids_iff {s : Schedule} {id : String} : id ∈ s.ids ↔ (s.jobs.lookup id).isSome := by
  simp [ids, List.lookup_isSome_iff]

/-- A job with a well-formed expression is scheduled where its name is new. -/
theorem schedule_succeeds {s : Schedule} {id cron : String} (hcron : Succeeds (Cron.parse cron))
    (h : id ∉ s.ids) (task : Task) (context : List (String × String)) :
    Succeeds (s.schedule id cron task context) := by
  refine hcron.bind fun parsed => ?_
  rw [mem_ids_iff] at h
  rw [if_neg h]
  exact succeeds_ok _

theorem schedule_of_mem {s : Schedule} {id cron : String} (hcron : Succeeds (Cron.parse cron))
    (h : id ∈ s.ids) (task : Task) (context : List (String × String)) :
    s.schedule id cron task context = .error (.duplicateJob id) := by
  obtain ⟨parsed, hparsed⟩ := hcron
  rw [mem_ids_iff] at h
  unfold schedule
  rw [hparsed]
  exact if_pos h

theorem mem_ids_schedule {s s' : Schedule} {id cron : String} {task : Task}
    {context : List (String × String)} (h : s.schedule id cron task context = .ok s')
    {other : String} : other ∈ s'.ids ↔ other = id ∨ other ∈ s.ids := by
  obtain ⟨parsed, -, hrest⟩ := bind_eq_ok.mp h
  split at hrest
  · cases hrest
  · cases hrest
    exact Sorted.mem_names_insert

theorem mem_ids_setPaused {s s' : Schedule} {id : String} {paused : Bool}
    (h : s.setPaused id paused = .ok s') {other : String} : other ∈ s'.ids ↔ other ∈ s.ids := by
  obtain ⟨job, hjob, hok⟩ := bind_eq_ok.mp h
  cases hok
  have hid : id ∈ s.ids := by
    rw [mem_ids_iff]
    unfold Schedule.job at hjob
    split at hjob
    · rename_i hfound
      rw [hfound]
      rfl
    · cases hjob
  refine Sorted.mem_names_insert.trans ⟨?_, .inr⟩
  rintro (rfl | hother)
  · exact hid
  · exact hother

/-- Pausing adds no job and takes none away. -/
theorem mem_ids_setAllPaused {s : Schedule} {names : List String} {paused : Bool} {other : String} :
    other ∈ (s.setAllPaused names paused).ids ↔ other ∈ s.ids := by
  unfold setAllPaused
  induction names generalizing s with
  | nil => rfl
  | cons id rest ih =>
    rw [List.foldl_cons, ih]
    cases h : s.setPaused id paused with
    | ok s' => exact mem_ids_setPaused h
    | error fault => rfl

end Schedule

theorem mem_ids_subscribeJob {s s' : Source} {schedule schedule' : Schedule}
    {cron handler id : String} {task : Task}
    (h : s.subscribeJob schedule cron handler task = .ok (id, s', schedule')) {other : String} :
    other ∈ schedule'.ids ↔ other = s.name ++ "." ++ handler ∨ other ∈ schedule.ids := by
  obtain ⟨scheduled, hscheduled, hok⟩ := bind_eq_ok.mp h
  cases hok
  rw [← Schedule.mem_ids_schedule hscheduled]
  split
  · exact Schedule.mem_ids_setAllPaused
  · rfl

/-! ## Subscriptions -/

/-- A handler of a monitor, and the event of the monitor to which it is to be subscribed. -/
structure Subscription where
  monitor : Nat
  event : String
  handler : String

/-- The name of the job that a subscription schedules, where its event is raised by a schedule. -/
def Wiring.jobName? (wiring : Wiring) (sub : Subscription) : Option String := do
  let (_, events, _) ← wiring.monitors[sub.monitor]?
  let (name, trigger, _) ← wiring.sources[← events.lookup sub.event]?
  match trigger with
  | .schedule _ => some (name ++ "." ++ sub.handler)
  | _ => none

namespace World

/-- Subscribes handlers one after the other. -/
def subscribeAll (w : World) (subs : List Subscription) : Except Fault World :=
  subs.foldlM (fun w sub => w.subscribe sub.monitor sub.event sub.handler) w

theorem jobName?_eq {w : World} {number source : Nat} {event : String} {m : Monitor} {s : Source}
    (hm : w.monitors[number]? = some m) (hevent : m.event event = .ok source)
    (hs : w.sources[source]? = some s) (handler : String) :
    w.wiring.jobName? ⟨number, event, handler⟩ =
      if s.isPeriodic then some (s.name ++ "." ++ handler) else none := by
  have hlookup : m.events.lookup event = some source := by
    unfold Monitor.event at hevent
    split at hevent
    · rename_i hfound
      cases hevent
      exact hfound
    · cases hevent
  unfold Wiring.jobName? wiring Source.isPeriodic
  simp only [List.getElem?_map, hm, Option.map_some, Monitor.wiring, Option.bind_eq_bind,
    Option.bind_some, hlookup, hs, Source.wiring]
  cases s.trigger <;> rfl

/-- A subscription takes the name of its job, if it has one, and no other. -/
theorem mem_ids_subscribe {w w' : World} {sub : Subscription}
    (h : w.subscribe sub.monitor sub.event sub.handler = .ok w') {id : String} :
    id ∈ w'.schedule.ids ↔ id ∈ w.schedule.ids ∨ w.wiring.jobName? sub = some id := by
  obtain ⟨number, event, handler⟩ := sub
  obtain ⟨m, hm, hrest⟩ := bind_eq_ok.mp h
  obtain ⟨source, hsource, hrest⟩ := bind_eq_ok.mp hrest
  obtain ⟨reached, -, hrest⟩ := bind_eq_ok.mp hrest
  split at hrest
  · rename_i task hperiodic
    obtain ⟨s, hs, hschedule⟩ := Option.map_eq_some_iff.mp hperiodic
    obtain ⟨⟨id', w₁⟩, hjob, hok⟩ := bind_eq_ok.mp hrest
    cases hok
    rw [jobName?_eq (getElem?_of_monitor hm) hsource hs handler, hschedule, if_pos rfl]
    unfold subscribeJob at hjob
    rw [hs] at hjob
    simp only [] at hjob
    split at hjob
    · obtain ⟨⟨id'', s', schedule⟩, hscheduled, hok⟩ := bind_eq_ok.mp hjob
      cases hok
      rw [Option.some.injEq, or_comm, eq_comm]
      exact mem_ids_subscribeJob hscheduled
    · cases hjob
  · rename_i observer hperiodic
    cases hrest
    obtain ⟨s, hs, hschedule⟩ := Option.map_eq_some_iff.mp hperiodic
    rw [jobName?_eq (getElem?_of_monitor hm) hsource hs handler, hschedule]
    simp [modifySource]
  · cases hrest

/-- After subscriptions their jobs are scheduled besides those that were, and the wiring is as
before. -/
theorem subscribeAll_eq_ok {w w' : World} {subs : List Subscription}
    (h : w.subscribeAll subs = .ok w') :
    w'.wiring = w.wiring ∧ ∀ id, id ∈ w'.schedule.ids ↔
      id ∈ w.schedule.ids ∨ ∃ sub ∈ subs, w.wiring.jobName? sub = some id := by
  unfold subscribeAll at h
  induction subs generalizing w with
  | nil =>
    cases h
    simp
  | cons sub rest ih =>
    rw [List.foldlM_cons] at h
    obtain ⟨w₁, hfirst, hrest⟩ := bind_eq_ok.mp h
    obtain ⟨hwiring, hids⟩ := ih hrest
    have hsame := wiring_subscribe hfirst
    refine ⟨hwiring.trans hsame, fun id => ?_⟩
    rw [hids, mem_ids_subscribe hfirst, hsame, or_assoc]
    simp only [List.mem_cons, exists_eq_or_imp]

/-- A job handler is subscribed to a schedule with a well-formed expression where the name of the
job is new. Where it is taken, the subscription fails for just that. -/
theorem subscribe_job {w : World} {number source : Nat} {event handler cron : String} {m : Monitor}
    {s : Source} {task : Task} (hm : w.monitors[number]? = some m)
    (hevent : m.event event = .ok source) (hhandler : m.handler handler = .ok (.job task))
    (hs : w.sources[source]? = some s) (htrigger : s.trigger = .schedule cron)
    (hcron : Succeeds (Cron.parse cron)) :
    (s.name ++ "." ++ handler ∉ w.schedule.ids → Succeeds (w.subscribe number event handler)) ∧
      (s.name ++ "." ++ handler ∈ w.schedule.ids →
        w.subscribe number event handler = .error (.duplicateJob (s.name ++ "." ++ handler))) := by
  have hperiodic : w.sources[source]?.map (·.isPeriodic) = some true := by
    simp [hs, Source.isPeriodic, htrigger]
  have hsubscribe : w.subscribe number event handler =
      (w.subscribeJob source handler task >>= fun result => .ok result.2) := by
    unfold subscribe
    simp only [monitor_eq_ok hm, hevent, hhandler, hperiodic, bind, Except.bind]
    rfl
  have hjob : w.subscribeJob source handler task =
      (s.subscribeJob w.schedule cron handler task >>= fun result => .ok (result.1, { w with
        schedule := result.2.2, sources := w.sources.set source result.2.1 })) := by
    unfold subscribeJob
    rw [hs]
    simp only [htrigger]
    rfl
  rw [hsubscribe, hjob]
  constructor
  · intro hnew
    refine Succeeds.bind (Succeeds.bind ?_ fun _ => succeeds_ok _) fun _ => succeeds_ok _
    exact (Schedule.schedule_succeeds hcron hnew _ _).bind fun _ => succeeds_pure _
  · intro htaken
    have hfails : s.subscribeJob w.schedule cron handler task =
        .error (.duplicateJob (s.name ++ "." ++ handler)) :=
      bind_eq_error.mpr (.inl (Schedule.schedule_of_mem hcron htaken _ _))
    rw [hfails]
    rfl

end World

end Watchtower.Live
