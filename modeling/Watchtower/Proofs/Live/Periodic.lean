-- Periodic sources beside the schedule that they share. A source keeps the names of its jobs and
-- whether it is paused, and the schedule keeps this again for each job. Both stay in step, in
-- whatever order handlers are subscribed and sources are paused and resumed.
import Mathlib.Data.List.Nodup
import Watchtower.Proofs.Live.Hearing
import Watchtower.Proofs.Live.Subscription

namespace Watchtower.Live

/-! ## Calls -/

/-- A call of a periodic source: a task of a handler is subscribed, or the source is paused or
resumed. -/
inductive PeriodicCall where
  | subscribe (source : Nat) (handler : String) (task : Task)
  | steer (paused : Bool) (source : Nat)

namespace World

/-- Makes a call of a source. A fault leaves all as it was. -/
def manage (w : World) : PeriodicCall → Except Fault Unit × World
  | .subscribe source handler task =>
    match w.subscribeJob source handler task with
    | .ok (_, w) => (.ok (), w)
    | .error fault => (.error fault, w)
  | .steer paused source => (.ok (), w.steerSource paused source)

/-- Makes calls of sources, one after the other, whether or not they fail. -/
def manageAll (w : World) (calls : List PeriodicCall) : World :=
  calls.foldl (fun w call => (w.manage call).2) w

end World

/-! ## Schedules -/

namespace Schedule

theorem job_eq_ok_iff {s : Schedule} {id : String} {job : Job} :
    s.job id = .ok job ↔ s.jobs.lookup id = some job := by
  unfold Schedule.job
  cases s.jobs.lookup id <;> simp

theorem setPaused_of_lookup {s : Schedule} {id : String} {job : Job}
    (h : s.jobs.lookup id = some job) (paused : Bool) :
    s.setPaused id paused = .ok ⟨Sorted.insert id { job with paused } s.jobs⟩ := by
  simp [setPaused, job_eq_ok_iff.mpr h, bind, Except.bind, pure, Except.pure]

theorem setPaused_of_none {s : Schedule} {id : String} (h : s.jobs.lookup id = none)
    (paused : Bool) : s.setPaused id paused = .error (.unknownJob id) := by
  simp [setPaused, job, h, bind, Except.bind]

/-- Pausing jobs sets their flags, and leaves all other jobs. -/
theorem lookup_setAllPaused (s : Schedule) (names : List String) (paused : Bool) (id : String) :
    (s.setAllPaused names paused).jobs.lookup id =
      (s.jobs.lookup id).map fun job => if id ∈ names then { job with paused } else job := by
  unfold setAllPaused
  induction names generalizing s with
  | nil => simp
  | cons name rest ih =>
    rw [List.foldl_cons, ih]
    cases hfound : s.jobs.lookup name with
    | none =>
      rw [setPaused_of_none hfound]
      by_cases hid : id = name
      · simp [hid, hfound]
      · simp [hid]
    | some job =>
      rw [setPaused_of_lookup hfound]
      by_cases hid : id = name
      · simp [hid, hfound]
      · simp [hid, Sorted.lookup_insert_of_ne _ _ hid]

theorem ascends_setAllPaused {s : Schedule} (h : Sorted.Ascends s.jobs) (names : List String)
    (paused : Bool) : Sorted.Ascends (s.setAllPaused names paused).jobs := by
  unfold setAllPaused
  induction names generalizing s with
  | nil => exact h
  | cons name rest ih =>
    rw [List.foldl_cons]
    cases hfound : s.jobs.lookup name with
    | none =>
      rw [setPaused_of_none hfound]
      exact ih h
    | some job =>
      rw [setPaused_of_lookup hfound]
      exact ih (h.insert _ _)

/-- Pausing leaves the names of the jobs, in their order. -/
theorem ids_setAllPaused {s : Schedule} (h : Sorted.Ascends s.jobs) (names : List String)
    (paused : Bool) : (s.setAllPaused names paused).ids.Perm s.ids :=
  (List.perm_ext_iff_of_nodup (ascends_setAllPaused h names paused).nodup h.nodup).mpr
    fun _ => mem_ids_setAllPaused

end Schedule

/-- The job that a subscription schedules: it is paused if its source is. -/
def Source.newJob (s : Source) (parsed : Cron) (cron : String) (task : Task) : Job :=
  { cron := parsed, task, context := [(expressionKey, cron)], paused := s.paused }

theorem Source.subscribeJob_of_new {s : Source} {schedule : Schedule} {cron handler : String}
    {parsed : Cron} (hcron : Cron.parse cron = .ok parsed)
    (hnew : s.name ++ "." ++ handler ∉ schedule.ids) (task : Task) :
    s.subscribeJob schedule cron handler task = .ok (s.name ++ "." ++ handler,
      { s with jobs := s.jobs ++ [s.name ++ "." ++ handler] },
      ⟨Sorted.insert (s.name ++ "." ++ handler) (s.newJob parsed cron task) schedule.jobs⟩) := by
  generalize hid : s.name ++ "." ++ handler = id at hnew ⊢
  have hscheduled : schedule.schedule id cron task [(expressionKey, cron)] =
      .ok ⟨Sorted.insert id ⟨parsed, task, [(expressionKey, cron)], false⟩ schedule.jobs⟩ := by
    rw [Schedule.mem_ids_iff] at hnew
    simp [Schedule.schedule, hcron, hnew, bind, Except.bind]
  have hpaused : (if s.paused then Schedule.setAllPaused
      ⟨Sorted.insert id ⟨parsed, task, [(expressionKey, cron)], false⟩ schedule.jobs⟩ [id] true
      else ⟨Sorted.insert id ⟨parsed, task, [(expressionKey, cron)], false⟩ schedule.jobs⟩) =
      ⟨Sorted.insert id (s.newJob parsed cron task) schedule.jobs⟩ := by
    cases hflag : s.paused with
    | false => simp [newJob, hflag]
    | true =>
      simp [newJob, hflag, Schedule.setAllPaused,
        Schedule.setPaused_of_lookup (Sorted.lookup_insert_self ..), Sorted.insert_insert]
  simp only [subscribeJob, hid, hscheduled, bind, Except.bind, pure, Except.pure, hpaused]

/-! ## Steps -/

namespace World

variable {w : World} {source : Nat} {s : Source} {cron : String}

/-- A subscription to a periodic source fails where the expression is malformed or the name of the
job is taken. Else it adds the job to the schedule and its name to the source. -/
theorem manage_subscribe (hs : w.sources[source]? = some s) (htrigger : s.trigger = .schedule cron)
    (handler : String) (task : Task) :
    (∃ reason, Cron.parse cron = .error (.invalidCron cron reason) ∧
      w.manage (.subscribe source handler task) = (.error (.invalidCron cron reason), w)) ∨
    ((Cron.parse cron).isOk ∧ s.name ++ "." ++ handler ∈ w.schedule.ids ∧
      w.manage (.subscribe source handler task) =
        (.error (.duplicateJob (s.name ++ "." ++ handler)), w)) ∨
    ∃ parsed, Cron.parse cron = .ok parsed ∧ s.name ++ "." ++ handler ∉ w.schedule.ids ∧
      w.manage (.subscribe source handler task) = (.ok (), { w with
        schedule := ⟨Sorted.insert (s.name ++ "." ++ handler) (s.newJob parsed cron task)
          w.schedule.jobs⟩
        sources := w.sources.set source
          { s with jobs := s.jobs ++ [s.name ++ "." ++ handler] } }) := by
  cases hcron : Cron.parse cron with
  | error fault =>
    obtain ⟨reason, rfl⟩ : ∃ reason, fault = .invalidCron cron reason := by
      simp only [Cron.parse] at hcron
      split at hcron
      · cases hcron
        exact ⟨_, rfl⟩
      · cases hcron
    refine .inl ⟨reason, rfl, ?_⟩
    simp [manage, World.subscribeJob, hs, htrigger, Source.subscribeJob, Schedule.schedule, hcron,
      bind, Except.bind]
  | ok parsed =>
    by_cases htaken : s.name ++ "." ++ handler ∈ w.schedule.ids
    · refine .inr (.inl ⟨rfl, htaken, ?_⟩)
      simp [manage, World.subscribeJob, hs, htrigger, Source.subscribeJob,
        Schedule.schedule_of_mem ⟨parsed, hcron⟩ htaken, bind, Except.bind]
    · refine .inr (.inr ⟨parsed, rfl, htaken, ?_⟩)
      simp [manage, World.subscribeJob, hs, htrigger, Source.subscribeJob_of_new hcron htaken,
        bind, Except.bind, pure, Except.pure]

/-- Steering a source that is there already leaves all as it is. Else it sets the flags of the
source and of its jobs. -/
theorem steerSource_of_getElem? (hs : w.sources[source]? = some s) (paused : Bool) :
    w.steerSource paused source = if s.paused = paused then w else
      { w with
        schedule := w.schedule.setAllPaused s.jobs paused
        sources := w.sources.set source { s with paused } } := by
  have hsame := set_of_getElem? hs
  unfold steerSource pauseSource resumeSource
  cases paused <;> cases hflag : s.paused <;>
    simp [hs, Source.pause, Source.resume, hflag, hsame]

end World

namespace World

/-- What a call of a source does to a world: nothing, or a job is new in the schedule and in the
source, or the source and its jobs are paused or resumed. -/
theorem manage_cases (w : World) (call : PeriodicCall) :
    (w.manage call).2 = w ∨
    (∃ (source : Nat) (s : Source) (handler id : String) (job : Job),
      call = .subscribe source handler job.task ∧ w.sources[source]? = some s ∧
      id ∉ w.schedule.ids ∧ job.paused = s.paused ∧
      (w.manage call).2 = { w with
        schedule := ⟨Sorted.insert id job w.schedule.jobs⟩
        sources := w.sources.set source { s with jobs := s.jobs ++ [id] } }) ∨
    ∃ (source : Nat) (s : Source) (paused : Bool), w.sources[source]? = some s ∧
      (w.manage call).2 = { w with
        schedule := w.schedule.setAllPaused s.jobs paused
        sources := w.sources.set source { s with paused } } := by
  cases call with
  | subscribe source handler task =>
    cases hs : w.sources[source]? with
    | none => exact .inl (by simp [manage, World.subscribeJob, hs])
    | some s =>
      cases htrigger : s.trigger with
      | schedule cron =>
        obtain ⟨reason, -, heq⟩ | ⟨-, -, heq⟩ | ⟨parsed, -, hnew, heq⟩ :=
          manage_subscribe hs htrigger handler task
        · exact .inl (by rw [heq])
        · exact .inl (by rw [heq])
        · exact .inr (.inl ⟨source, s, handler, _, s.newJob parsed cron task, rfl, hs, hnew, rfl,
            by rw [heq]⟩)
      | probe | change | manual =>
        exact .inl (by simp [manage, World.subscribeJob, hs, htrigger])
  | steer paused source =>
    cases hs : w.sources[source]? with
    | none =>
      exact .inl (by cases paused <;> simp [manage, steerSource, pauseSource, resumeSource, hs])
    | some s =>
      have heq := steerSource_of_getElem? hs paused
      split at heq
      · exact .inl heq
      · exact .inr (.inr ⟨source, s, paused, hs, heq⟩)

/-- The sources keep their names and their triggers. -/
theorem sources_manageAll (w : World) (calls : List PeriodicCall) :
    (w.manageAll calls).sources.map Source.wiring = w.sources.map Source.wiring := by
  induction calls generalizing w with
  | nil => rfl
  | cons call rest ih =>
    refine (ih _).trans ?_
    show (w.manage call).2.sources.map Source.wiring = _
    obtain heq | ⟨source, s, -, id, job, -, hs, -, -, heq⟩ | ⟨source, s, paused, hs, heq⟩ :=
      w.manage_cases call
    · rw [heq]
    · rw [heq]
      exact map_set_of_eq hs rfl
    · rw [heq]
      exact map_set_of_eq hs rfl

end World

/-! ## In step -/

/-- The sources and the schedule are in step: they have the same jobs, each job once, and a job is
paused just if its source is. -/
structure World.IsInStep (w : World) : Prop where
  ascends : Sorted.Ascends w.schedule.jobs
  listed : w.schedule.ids.Perm (w.sources.flatMap (·.jobs))
  agrees : ∀ (source : Nat) (s : Source), w.sources[source]? = some s → ∀ id ∈ s.jobs,
    ∃ job, w.schedule.jobs.lookup id = some job ∧ job.paused = s.paused

/-- What is added to one list of many is added to all of them together. -/
theorem flatMap_set_perm {α β : Type} {f : α → List β} {items : List α} {i : Nat} {a a' : α} {b : β}
    (ha : items[i]? = some a) (hf : f a' = f a ++ [b]) :
    ((items.set i a').flatMap f).Perm (b :: items.flatMap f) := by
  induction items generalizing i with
  | nil => cases ha
  | cons first rest ih =>
    cases i with
    | zero =>
      obtain rfl : first = a := by simpa using ha
      simp only [List.set_cons_zero, List.flatMap_cons, hf, List.append_assoc,
        List.singleton_append]
      exact List.perm_middle
    | succ i =>
      simp only [List.set_cons_succ, List.flatMap_cons]
      exact ((ih (by simpa using ha)).append_left _).trans List.perm_middle

namespace World.IsInStep

variable {w : World}

/-- No job is listed twice. -/
theorem nodup (h : w.IsInStep) : (w.sources.flatMap (·.jobs)).Nodup :=
  h.listed.nodup_iff.mp h.ascends.nodup

/-- A job is listed by one source at most. -/
theorem source_unique (h : w.IsInStep) {i j : Nat} {s t : Source} {id : String}
    (hi : w.sources[i]? = some s) (hj : w.sources[j]? = some t) (hs : id ∈ s.jobs)
    (ht : id ∈ t.jobs) : i = j := by
  have hdisjoint := (List.nodup_flatMap.mp h.nodup).2
  rw [List.pairwise_iff_getElem] at hdisjoint
  obtain ⟨hilt, rfl⟩ := List.getElem?_eq_some_iff.mp hi
  obtain ⟨hjlt, rfl⟩ := List.getElem?_eq_some_iff.mp hj
  rcases Nat.lt_trichotomy i j with hlt | heq | hlt
  · exact absurd ht (hdisjoint i j hilt hjlt hlt hs)
  · exact heq
  · exact absurd hs (hdisjoint j i hjlt hilt hlt ht)

/-- A job that is new is scheduled for a source, paused just if the source is. -/
theorem add (h : w.IsInStep) {source : Nat} {s : Source} (hs : w.sources[source]? = some s)
    {id : String} (hnew : id ∉ w.schedule.ids) {job : Job} (hpaused : job.paused = s.paused) :
    { w with
      schedule := ⟨Sorted.insert id job w.schedule.jobs⟩
      sources := w.sources.set source { s with jobs := s.jobs ++ [id] } : World }.IsInStep where
  ascends := h.ascends.insert id job
  listed := by
    have hids : (Schedule.mk (Sorted.insert id job w.schedule.jobs)).ids.Perm
        (id :: w.schedule.ids) := (Sorted.insert_perm job hnew).map _
    exact (hids.trans (h.listed.cons id)).trans (flatMap_set_perm hs rfl).symm
  agrees := by
    -- What was scheduled before has another name than the new job.
    have hold : ∀ (other : Nat) (t : Source), w.sources[other]? = some t → ∀ id' ∈ t.jobs,
        ∃ job', (Sorted.insert id job w.schedule.jobs).lookup id' = some job' ∧
          job'.paused = t.paused := by
      intro other t ht id' hid'
      obtain ⟨job', hjob', hsame⟩ := h.agrees other t ht id' hid'
      have hne : id' ≠ id := by
        rintro rfl
        exact hnew (Schedule.mem_ids_iff.mpr (by simp [hjob']))
      exact ⟨job', by rwa [Sorted.lookup_insert_of_ne _ _ hne], hsame⟩
    intro other t ht id' hid'
    by_cases hother : other = source
    · subst hother
      have hlt := (List.getElem?_eq_some_iff.mp hs).1
      obtain rfl : { s with jobs := s.jobs ++ [id] } = t := by
        simpa [List.getElem?_set_self hlt] using ht
      rcases List.mem_append.mp hid' with hid' | hid'
      · exact hold other s hs id' hid'
      · obtain rfl := List.mem_singleton.mp hid'
        exact ⟨job, Sorted.lookup_insert_self .., hpaused⟩
    · rw [List.getElem?_set_ne (Ne.symm hother)] at ht
      exact hold other t ht id' hid'

/-- A source is paused or resumed, and all its jobs with it. -/
theorem steer (h : w.IsInStep) {source : Nat} {s : Source} (hs : w.sources[source]? = some s)
    (paused : Bool) :
    { w with
      schedule := w.schedule.setAllPaused s.jobs paused
      sources := w.sources.set source { s with paused } : World }.IsInStep where
  ascends := Schedule.ascends_setAllPaused h.ascends _ _
  listed := by
    have hsame : (w.sources.set source { s with paused }).flatMap (·.jobs) =
        w.sources.flatMap (·.jobs) := by
      rw [List.flatMap_def, List.flatMap_def]
      exact congrArg _ (map_set_of_eq hs rfl)
    rw [hsame]
    exact (Schedule.ids_setAllPaused h.ascends _ _).trans h.listed
  agrees := by
    intro other t ht id hid
    have hlt := (List.getElem?_eq_some_iff.mp hs).1
    by_cases hother : other = source
    · subst hother
      obtain rfl : { s with paused } = t := by simpa [List.getElem?_set_self hlt] using ht
      obtain ⟨job, hjob, -⟩ := h.agrees other s hs id hid
      refine ⟨{ job with paused }, ?_, rfl⟩
      simpa [Schedule.lookup_setAllPaused, hjob] using fun hnot => absurd hid hnot
    · -- The jobs of another source are none of those of the source.
      rw [List.getElem?_set_ne (Ne.symm hother)] at ht
      obtain ⟨job, hjob, hsame⟩ := h.agrees other t ht id hid
      have hnot : id ∉ s.jobs := fun hmem => hother (h.source_unique ht hs hid hmem)
      exact ⟨job, by simp [Schedule.lookup_setAllPaused, hjob, hnot], hsame⟩

theorem manage (h : w.IsInStep) (call : PeriodicCall) : (w.manage call).2.IsInStep := by
  obtain heq | ⟨source, s, -, id, job, -, hs, hnew, hpaused, heq⟩ |
    ⟨source, s, paused, hs, heq⟩ := w.manage_cases call
  · rwa [heq]
  · rw [heq]
    exact h.add hs hnew hpaused
  · rw [heq]
    exact h.steer hs paused

theorem manageAll (h : w.IsInStep) (calls : List PeriodicCall) : (w.manageAll calls).IsInStep := by
  induction calls generalizing w with
  | nil => exact h
  | cons call rest ih => exact ih (h.manage call)

/-- A job does what it did before a call, or what was subscribed with it. -/
theorem task_of_manage (h : w.IsInStep) {call : PeriodicCall} {entry : String × Job}
    (hentry : entry ∈ (w.manage call).2.schedule.jobs) :
    (∃ old ∈ w.schedule.jobs, entry.2.task = old.2.task) ∨
      ∃ source handler, call = .subscribe source handler entry.2.task := by
  obtain heq | ⟨source, s, handler, id, job, hcall, -, -, -, heq⟩ |
    ⟨source, s, paused, -, heq⟩ := w.manage_cases call <;> rw [heq] at hentry
  · exact .inl ⟨entry, hentry, rfl⟩
  · rcases Sorted.mem_of_mem_insert hentry with rfl | hold
    · exact .inr ⟨source, handler, hcall⟩
    · exact .inl ⟨entry, hold, rfl⟩
  · have hlookup := lookup_of_mem (Schedule.ascends_setAllPaused h.ascends _ _).nodup hentry
    rw [Schedule.lookup_setAllPaused] at hlookup
    obtain ⟨job, hjob, hflag⟩ := Option.map_eq_some_iff.mp hlookup
    refine .inl ⟨_, mem_of_lookup hjob, ?_⟩
    rw [← hflag]
    split <;> rfl

/-- What a scheduled job does was subscribed with it, or it was scheduled from the beginning. -/
theorem task_of_manageAll (h : w.IsInStep) {calls : List PeriodicCall} {entry : String × Job}
    (hentry : entry ∈ (w.manageAll calls).schedule.jobs) :
    (∃ old ∈ w.schedule.jobs, entry.2.task = old.2.task) ∨
      ∃ source handler, .subscribe source handler entry.2.task ∈ calls := by
  induction calls generalizing w with
  | nil => exact .inl ⟨entry, hentry, rfl⟩
  | cons call rest ih =>
    obtain ⟨between, hbetween, hsame⟩ | ⟨source, handler, hcall⟩ := ih (h.manage call) hentry
    · rw [hsame]
      exact (h.task_of_manage hbetween).imp_right fun ⟨source, handler, hcall⟩ =>
        ⟨source, handler, by simp [hcall]⟩
    · exact .inr ⟨source, handler, List.mem_cons_of_mem _ hcall⟩

end World.IsInStep

/-! ## Firing -/

/-- What a job does when it fires: its task, with its expression, while the owner is there. -/
def Job.execute (thread : String) (job : Job) : Run Unit := do
  let expression ← Run.ofExcept job.expression
  if (← get).isAlive job.task.owner then (job.task.run expression).perform thread

/-- The task leaves the schedule as it is. -/
def Task.LeavesSchedule (thread : String) (task : Task) : Prop :=
  ∀ expression (w : World), ((task.run expression).perform thread w).2.schedule = w.schedule

theorem Task.LeavesSchedule.execute {thread : String} {job : Job}
    (h : job.task.LeavesSchedule thread) (w : World) :
    (job.execute thread w).2.schedule = w.schedule := by
  unfold Job.execute
  cases hexpression : job.expression with
  | error fault => rfl
  | ok expression =>
    show ((if w.isAlive job.task.owner then (job.task.run expression).perform thread
      else pure () : Run Unit) w).2.schedule = w.schedule
    split
    · exact h expression w
    · rfl

theorem fire_of_paused {w : World} {id : String} {job : Job} (h : w.schedule.job id = .ok job)
    (hpaused : job.paused) (thread : String) : fire thread id w = (.ok false, w) := by
  rw [fire, bind_of_ok (Run.ask_of_ok h), if_pos hpaused]
  rfl

theorem fire_of_running {w : World} {id : String} {job : Job} (h : w.schedule.job id = .ok job)
    (hrunning : job.paused = false) (thread : String) :
    fire thread id w = (job.execute thread >>= fun _ => pure true) w := by
  rw [fire, bind_of_ok (Run.ask_of_ok h), hrunning, Job.execute, bind_assoc]
  refine congrFun (bind_congr fun expression => ?_) w
  rw [bind_assoc]
  refine bind_congr fun now => ?_
  split <;> simp

/-- A job that was fired ended well. -/
def endedWell : Except Fault Bool → Bool
  | .ok ran => ran
  | .error _ => false

/-- Executes jobs one after the other, and counts those that end well. The fault of a job does not
concern the others. -/
def executeAll (thread : String) (jobs : List Job) : Run Nat := do
  let outcomes ← jobs.mapM fun job => (job.execute thread).attempt
  return outcomes.countP (·.isOk)

/-- Firing scheduled jobs by their names is executing those that run, and counting those of them
that end well. -/
theorem fire_entries {thread : String} {entries : List (String × Job)} {w : World}
    (hfound : ∀ entry ∈ entries, w.schedule.job entry.1 = .ok entry.2)
    (hquiet : ∀ entry ∈ entries, entry.2.task.LeavesSchedule thread) (n : Nat) :
    ((entries.map (·.1)).mapM (fun id => (fire thread id).attempt) >>= fun outcomes =>
        pure (n + outcomes.countP endedWell)) w =
      (((entries.map (·.2)).filter fun job => !job.paused).mapM
          (fun job => (job.execute thread).attempt) >>= fun outcomes =>
        pure (n + outcomes.countP (·.isOk))) w := by
  -- On the entries: whatever becomes of the first job, the others find the schedule as it was.
  induction entries generalizing w n with
  | nil => simp
  | cons entry rest ih =>
    obtain ⟨id, job⟩ := entry
    have hjob := hfound (id, job) List.mem_cons_self
    have hrest := fun (w' : World) (hsame : w'.schedule = w.schedule) =>
      @ih w' (fun e he => by rw [hsame, hfound e (List.mem_cons_of_mem _ he)])
        fun e he => hquiet e (List.mem_cons_of_mem _ he)
    simp only [List.map_cons]
    cases hflag : job.paused with
    | true =>
      have hfire := Run.attempt_of_ok (fire_of_paused hjob hflag thread)
      simp only [List.mapM_cons, bind_assoc, pure_bind]
      rw [bind_of_ok hfire, List.filter_cons_of_neg (by simp [hflag]), ← hrest w rfl n]
      simp [endedWell]
    | false =>
      have hleaves := (hquiet (id, job) List.mem_cons_self).execute w
      rw [List.filter_cons_of_pos (by simp [hflag])]
      simp only [List.mapM_cons, bind_assoc, pure_bind]
      rcases hrun : job.execute thread w with ⟨outcome, w'⟩
      rw [hrun] at hleaves
      have hfire := fire_of_running hjob hflag thread
      cases outcome with
      | ok _ =>
        rw [bind_of_ok hrun] at hfire
        rw [bind_of_ok (Run.attempt_of_ok hfire), bind_of_ok (Run.attempt_of_ok hrun)]
        simpa [List.countP_cons, endedWell, Except.isOk, Except.toBool, Nat.add_assoc,
          Nat.add_comm, Nat.add_left_comm] using hrest w' hleaves (n + 1)
      | error halt =>
        rw [bind_of_error hrun] at hfire
        cases halt with
        | fault f =>
          rw [bind_of_ok (Run.attempt_of_fault hfire), bind_of_ok (Run.attempt_of_fault hrun)]
          simpa [endedWell, Except.isOk, Except.toBool] using hrest w' hleaves n
        | crash =>
          rw [bind_of_error (Run.attempt_of_crash hfire), bind_of_error (Run.attempt_of_crash hrun)]

/-- All jobs are fired: those that run are executed in the order of their names. -/
theorem fireAll_eq {thread : String} {w : World} (h : Sorted.Ascends w.schedule.jobs)
    (hquiet : ∀ entry ∈ w.schedule.jobs, entry.2.task.LeavesSchedule thread) :
    fireAll thread w =
      executeAll thread ((w.schedule.jobs.filter fun entry => !entry.2.paused).map (·.2)) w := by
  have hfound : ∀ entry ∈ w.schedule.jobs, w.schedule.job entry.1 = .ok entry.2 :=
    fun entry hentry => Schedule.job_eq_ok_iff.mpr (lookup_of_mem h.nodup hentry)
  have hfired := fire_entries hfound hquiet 0
  simp only [Nat.zero_add, List.filter_map] at hfired
  exact hfired

namespace World.IsInStep

variable {w : World}

/-- Each scheduled job is listed by exactly one source. -/
theorem listed_once (h : w.IsInStep) {id : String} (hid : id ∈ w.schedule.ids) :
    ∃! source : Nat, ∃ s : Source, w.sources[source]? = some s ∧ id ∈ s.jobs := by
  obtain ⟨s, hs, hlisted⟩ := List.mem_flatMap.mp (h.listed.mem_iff.mp hid)
  obtain ⟨source, hsource⟩ := List.getElem?_of_mem hs
  refine ⟨source, ⟨s, hsource, hlisted⟩, ?_⟩
  rintro other ⟨t, ht, hother⟩
  exact h.source_unique ht hsource hother hlisted

/-- The jobs that run are those of the sources that run. -/
theorem mem_running_iff (h : w.IsInStep) {id : String} :
    id ∈ (w.schedule.jobs.filter fun entry => !entry.2.paused).map (·.1) ↔
      ∃ s ∈ w.sources, s.paused = false ∧ id ∈ s.jobs := by
  constructor
  · intro hid
    obtain ⟨⟨id, job⟩, hentry, rfl⟩ := List.mem_map.mp hid
    obtain ⟨hjob, hrunning⟩ := List.mem_filter.mp hentry
    obtain ⟨s, hs, hlisted⟩ :=
      List.mem_flatMap.mp (h.listed.mem_iff.mp (List.mem_map_of_mem hjob))
    obtain ⟨source, hsource⟩ := List.getElem?_of_mem hs
    obtain ⟨job', hjob', hsame⟩ := h.agrees source s hsource id hlisted
    obtain rfl : job = job' := by
      simpa [lookup_of_mem h.ascends.nodup hjob] using hjob'
    exact ⟨s, hs, by simpa [← hsame] using hrunning, hlisted⟩
  · rintro ⟨s, hs, hrunning, hlisted⟩
    obtain ⟨source, hsource⟩ := List.getElem?_of_mem hs
    obtain ⟨job, hjob, hsame⟩ := h.agrees source s hsource id hlisted
    refine List.mem_map.mpr ⟨(id, job), List.mem_filter.mpr ⟨mem_of_lookup hjob, ?_⟩, rfl⟩
    simp [hsame, hrunning]

/-- Sources that have no jobs are in step with a schedule that has none. -/
theorem of_no_jobs (hsources : ∀ s ∈ w.sources, s.jobs = [])
    (hschedule : w.schedule.jobs = []) : w.IsInStep where
  ascends := by simp [Sorted.Ascends, hschedule]
  listed := by
    have hlisted : w.sources.flatMap (·.jobs) = [] := List.flatMap_eq_nil_iff.mpr hsources
    simp [Schedule.ids, hschedule, hlisted]
  agrees := by
    intro source s hs id hid
    rw [hsources s (List.mem_of_getElem? hs)] at hid
    cases hid

end World.IsInStep

/-! ## The law -/

theorem Source.isPeriodic_iff (s : Source) : s.isPeriodic ↔ ∃ cron, s.trigger = .schedule cron := by
  unfold Source.isPeriodic
  cases s.trigger <;> simp

/-- Periodic sources stay periodic, whatever is managed. -/
theorem isPeriodic_manageAll {w : World} (h : ∀ s ∈ w.sources, s.isPeriodic)
    (calls : List PeriodicCall) {s : Source} (hs : s ∈ (w.manageAll calls).sources) :
    s.isPeriodic := by
  obtain ⟨s₀, hs₀, hwiring⟩ : ∃ s₀ ∈ w.sources, s₀.wiring = s.wiring := by
    rw [← List.mem_map, ← w.sources_manageAll calls]
    exact List.mem_map_of_mem hs
  have htrigger : s₀.trigger = s.trigger := congrArg (·.2.1) hwiring
  rw [Source.isPeriodic_iff, ← htrigger, ← Source.isPeriodic_iff]
  exact h s₀ hs₀

/-- Any number of periodic sources that have no jobs share an empty schedule that nobody else uses.
Handlers are subscribed to them and they are paused and resumed, in any order. Then each scheduled
job is listed by exactly one source, and each listed job is scheduled, once, and paused just if its
source is. A subscription fails for a malformed expression or a taken name, and leaves all as it
is; else it adds a job with its task to the schedule and to the list of the source. If all jobs are
fired, and none of them touches the schedule, those of the sources that run are executed, each once
and in the order of their names, whatever becomes of the others, and those that end well are
counted. -/
theorem periodic_sources_stay_in_step_with_their_schedule {w₀ : World}
    (hsources : ∀ s ∈ w₀.sources, s.isPeriodic ∧ s.jobs = []) (hschedule : w₀.schedule.jobs = [])
    (calls : List PeriodicCall) :
    let w := w₀.manageAll calls
    (∀ id ∈ w.schedule.ids,
      ∃! source : Nat, ∃ s : Source, w.sources[source]? = some s ∧ id ∈ s.jobs) ∧
    (∀ (source : Nat) (s : Source), w.sources[source]? = some s → s.jobs.Nodup ∧
      ∀ id ∈ s.jobs, ∃ job, w.schedule.job id = .ok job ∧ job.paused = s.paused) ∧
    (∀ entry ∈ w.schedule.jobs,
      ∃ source handler, .subscribe source handler entry.2.task ∈ calls) ∧
    (∀ (source : Nat) (s : Source), w.sources[source]? = some s →
      ∃ cron, s.trigger = .schedule cron ∧ ∀ handler task,
        (∃ parsed, Cron.parse cron = .ok parsed ∧ s.name ++ "." ++ handler ∉ w.schedule.ids ∧
          w.manage (.subscribe source handler task) = (.ok (), { w with
            schedule := ⟨Sorted.insert (s.name ++ "." ++ handler) (s.newJob parsed cron task)
              w.schedule.jobs⟩
            sources := w.sources.set source
              { s with jobs := s.jobs ++ [s.name ++ "." ++ handler] } })) ∨
        ∃ fault, w.manage (.subscribe source handler task) = (.error fault, w) ∧
          (Cron.parse cron = .error fault ∨ s.name ++ "." ++ handler ∈ w.schedule.ids ∧
            fault = .duplicateJob (s.name ++ "." ++ handler))) ∧
    ∀ thread, (∀ entry ∈ w.schedule.jobs, entry.2.task.LeavesSchedule thread) →
      ∃ running : List (String × Job), Sorted.Ascends running ∧
        (∀ id, id ∈ running.map (·.1) ↔ ∃ s ∈ w.sources, s.paused = false ∧ id ∈ s.jobs) ∧
        (∀ entry ∈ running, w.schedule.job entry.1 = .ok entry.2) ∧
        fireAll thread w = executeAll thread (running.map (·.2)) w := by
  intro w
  have hbegin : w₀.IsInStep := .of_no_jobs (fun s hs => (hsources s hs).2) hschedule
  have h : w.IsInStep := hbegin.manageAll calls
  refine ⟨fun id hid => h.listed_once hid, ?_, ?_, ?_, ?_⟩
  · intro source s hs
    refine ⟨(List.nodup_flatMap.mp h.nodup).1 s (List.mem_of_getElem? hs), fun id hid => ?_⟩
    obtain ⟨job, hjob, hsame⟩ := h.agrees source s hs id hid
    exact ⟨job, Schedule.job_eq_ok_iff.mpr hjob, hsame⟩
  · intro entry hentry
    refine (hbegin.task_of_manageAll hentry).resolve_left ?_
    rintro ⟨old, hold, -⟩
    rw [hschedule] at hold
    cases hold
  · intro source s hs
    obtain ⟨cron, hcron⟩ := s.isPeriodic_iff.mp
      (isPeriodic_manageAll (fun s hs => (hsources s hs).1) calls (List.mem_of_getElem? hs))
    refine ⟨cron, hcron, fun handler task => ?_⟩
    obtain ⟨reason, hmalformed, heq⟩ | ⟨-, htaken, heq⟩ | ⟨parsed, hparsed, hnew, heq⟩ :=
      World.manage_subscribe hs hcron handler task
    · exact .inr ⟨_, heq, .inl hmalformed⟩
    · exact .inr ⟨_, heq, .inr ⟨htaken, rfl⟩⟩
    · exact .inl ⟨parsed, hparsed, hnew, heq⟩
  · intro thread hquiet
    refine ⟨w.schedule.jobs.filter fun entry => !entry.2.paused, ?_, fun id => h.mem_running_iff,
      ?_, fireAll_eq h.ascends hquiet⟩
    · exact h.ascends.sublist (List.filter_sublist.map _)
    · intro entry hentry
      exact Schedule.job_eq_ok_iff.mpr (lookup_of_mem h.ascends.nodup (List.mem_filter.mp hentry).1)

/-- Two periodic sources without jobs. -/
def tickAndBeat : World :=
  { sources := [{ name := "tick", trigger := .schedule "* * * * *" },
      { name := "beat", trigger := .schedule "0 * * * *" }] }

/-- A task that notes its expression. -/
def noteTask : Task :=
  { run := fun expression => .note "log" (.value (.str expression)) .done }

/-- Handlers are subscribed, one of them with a name that is taken and one while its source is
paused. -/
def tickAndBeatCalls : List PeriodicCall :=
  [.subscribe 0 "onTick" noteTask, .steer true 1, .subscribe 1 "onBeat" noteTask,
    .subscribe 0 "onTick" noteTask, .subscribe 0 "fails" { run := fun _ => .fail .storage }]

theorem tick_runs_while_beat_is_paused :
    let w := tickAndBeat.manageAll tickAndBeatCalls
    w.schedule.ids = ["beat.onBeat", "tick.fails", "tick.onTick"] ∧
      (∃! source : Nat, ∃ s : Source, w.sources[source]? = some s ∧ "tick.onTick" ∈ s.jobs) ∧
      ∃ running : List (String × Job),
        (∀ id, id ∈ running.map (·.1) ↔ ∃ s ∈ w.sources, s.paused = false ∧ id ∈ s.jobs) ∧
        fireAll "" w = executeAll "" (running.map (·.2)) w ∧
        (fireAll "" w).1.toOption = some 1 := by
  obtain ⟨honce, -, htasks, -, hfire⟩ := periodic_sources_stay_in_step_with_their_schedule
    (show ∀ s ∈ tickAndBeat.sources, s.isPeriodic ∧ s.jobs = [] by
      simp [tickAndBeat, Source.isPeriodic]) rfl tickAndBeatCalls
  have hids : (tickAndBeat.manageAll tickAndBeatCalls).schedule.ids =
      ["beat.onBeat", "tick.fails", "tick.onTick"] := by decide +kernel
  obtain ⟨running, -, hrunning, -, hfired⟩ := hfire "" (by
    intro entry hentry
    obtain ⟨source, handler, hcall⟩ := htasks entry hentry
    have htask : entry.2.task = noteTask ∨ entry.2.task = { run := fun _ => .fail .storage } := by
      simp only [tickAndBeatCalls, List.mem_cons, PeriodicCall.subscribe.injEq, reduceCtorEq,
        List.not_mem_nil] at hcall
      tauto
    rcases htask with hnote | hfail
    · intro expression w
      rw [hnote, Body.perform_of_isNoting (by trivial)]
      rfl
    · intro expression w
      rw [hfail]
      rfl)
  refine ⟨hids, honce "tick.onTick" (by simp [hids]), running, hrunning, hfired, ?_⟩
  decide +kernel

end Watchtower.Live
