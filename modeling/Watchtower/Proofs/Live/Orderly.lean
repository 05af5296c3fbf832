-- Orderly worlds: every monitor is steered by its own methods, and its events have sources. User
-- code that runs in such a world records no failure, changes nothing of a monitor but its
-- variables and its flag, and moves the sources of a monitor only together with it.
import Watchtower.Proofs.Live.Frame

namespace Watchtower.Live

/-! ## What code leaves alone -/

/-- A monitor without its variables. -/
def Monitor.bare (m : Monitor) : Monitor := { m with vars := [] }

/-- A monitor without what user code can change of it: its variables and its flag. -/
def Monitor.fixed (m : Monitor) : Monitor := { m.bare with paused := false }

theorem Monitor.eq_of_fixed {m m' : Monitor} (h : m'.fixed = m.fixed) :
    m' = { m with vars := m'.vars, paused := m'.paused } := by
  cases m
  cases m'
  simp only [Monitor.fixed, Monitor.bare, Monitor.mk.injEq] at h ⊢
  simp only [h, and_self]

theorem Monitor.paused_of_bare {m m' : Monitor} (h : m'.bare = m.bare) : m'.paused = m.paused := by
  have hpaused := congrArg Monitor.paused h
  exact hpaused

theorem Monitor.fixed_of_bare {m m' : Monitor} (h : m'.bare = m.bare) : m'.fixed = m.fixed := by
  unfold Monitor.fixed
  rw [h]

/-- What only transitions change: the failures, the flags of the sources, and the monitors without
their variables. -/
structure Standing where
  failures : List Failure
  flags : List Bool
  monitors : List Monitor

def World.standing (w : World) : Standing :=
  ⟨w.failures, w.sources.map (·.paused), w.monitors.map Monitor.bare⟩

theorem World.standing_congr {w w' : World} (hfailures : w'.failures = w.failures)
    (hsources : w'.sources.map (·.paused) = w.sources.map (·.paused))
    (hmonitors : w'.monitors.map Monitor.bare = w.monitors.map Monitor.bare) :
    w'.standing = w.standing := by
  unfold World.standing
  rw [hfailures, hsources, hmonitors]

theorem isKeptByCode_standing (standing : Standing) :
    IsKeptByCode fun w => w.standing = standing where
  note _ _ _ _ h := h
  stop _ _ _ _ _ _ _ h := h
  schedule _ _ h := h
  subscribe := by
    rintro w source s schedule jobs hs rfl
    exact World.standing_congr rfl (map_set_of_eq hs rfl) rfl
  observe := by
    rintro w source observer rfl
    refine World.standing_congr rfl ?_ rfl
    apply map_modify_of_eq
    intro s
    rfl
  assign := by
    rintro w number m vars hm rfl
    exact World.standing_congr rfl rfl (map_set_of_eq hm rfl)
  publish _ _ _ h := h

/-- A world that can come from another by user code: no failure is recorded, no source added, and
the monitors are the same, but for their variables and flags. -/
structure World.Follows (w w' : World) : Prop where
  failures : w'.failures = w.failures
  sources : w'.sources.length = w.sources.length
  monitors : w'.monitors.map Monitor.fixed = w.monitors.map Monitor.fixed

namespace World

theorem Follows.refl (w : World) : Follows w w := ⟨rfl, rfl, rfl⟩

theorem Follows.trans {w₁ w₂ w₃ : World} (h : Follows w₁ w₂) (h' : Follows w₂ w₃) :
    Follows w₁ w₃ :=
  ⟨h'.failures.trans h.failures, h'.sources.trans h.sources, h'.monitors.trans h.monitors⟩

theorem Follows.symm {w w' : World} (h : Follows w w') : Follows w' w :=
  ⟨h.failures.symm, h.sources.symm, h.monitors.symm⟩

theorem Follows.monitor {w w' : World} (h : Follows w w') {number : Nat} {m : Monitor}
    (hm : w.monitors[number]? = some m) :
    ∃ m', w'.monitors[number]? = some m' ∧ m'.fixed = m.fixed :=
  getElem?_of_prefix (h.monitors ▸ List.prefix_rfl) hm

theorem Follows.of_standing {w w' : World} (h : w'.standing = w.standing) : Follows w w' := by
  have hsources : w'.sources.map (·.paused) = w.sources.map (·.paused) := congrArg Standing.flags h
  have hmonitors : w'.monitors.map Monitor.bare = w.monitors.map Monitor.bare :=
    congrArg Standing.monitors h
  refine ⟨congrArg Standing.failures h, ?_, ?_⟩
  · simpa using congrArg List.length hsources
  · have hfixed := congrArg (List.map fun m : Monitor => { m with paused := false }) hmonitors
    rwa [List.map_map, List.map_map] at hfixed

theorem follows_steer {w : World} {number : Nat} {m : Monitor} (h : w.monitors[number]? = some m)
    (paused : Bool) : Follows w (w.steer number m paused) := by
  obtain ⟨schedule, heq⟩ := steer_eq h paused
  rw [heq]
  refine ⟨rfl, length_flagSources _ _ _, ?_⟩
  apply map_modify_of_eq
  intro m
  rfl

end World

/-! ## Orderly worlds -/

theorem Monitor.IsSteered.congr {m m' : Monitor} (h : m.IsSteered)
    (hmethods : m'.methods = m.methods) (hevents : m'.events = m.events) : m'.IsSteered := by
  obtain ⟨hpauses, hresumes, hnames⟩ := h
  unfold Monitor.method at hpauses hresumes
  refine ⟨?_, ?_, ?_⟩
  · unfold Monitor.method
    rw [hmethods, hevents]
    exact hpauses
  · unfold Monitor.method
    rw [hmethods, hevents]
    exact hresumes
  · rw [hevents]
    exact hnames

/-- The monitors of the world are steered by their methods, and their events have sources. -/
def World.IsOrderly (w : World) : Prop :=
  ∀ m ∈ w.monitors, m.IsSteered ∧ ∀ event ∈ m.events, event.2 < w.sources.length

namespace World

theorem IsOrderly.follows {w w' : World} (hw : w.IsOrderly) (h : Follows w w') : w'.IsOrderly := by
  intro m' hm'
  obtain ⟨number, hnumber⟩ := List.mem_iff_getElem?.mp hm'
  obtain ⟨m, hm, hfixed⟩ := h.symm.monitor hnumber
  obtain ⟨hsteered, hsources⟩ := hw m (List.mem_of_getElem? hm)
  rw [Monitor.eq_of_fixed hfixed.symm, h.sources]
  exact ⟨hsteered.congr rfl rfl, hsources⟩

/-- The sources of a monitor are in its state. -/
def InStep (w : World) (number : Nat) : Prop :=
  ∀ m, w.monitors[number]? = some m → ∀ event ∈ m.events,
    w.sources[event.2]?.map (·.paused) = some m.paused

/-- No other monitor has a source of this one. -/
def IsApart (w : World) (number : Nat) : Prop :=
  ∀ m other m', w.monitors[number]? = some m → w.monitors[other]? = some m' → other ≠ number →
    ∀ event ∈ m.events, event.2 ∉ m'.events.map (·.2)

theorem IsApart.follows {w w' : World} {number : Nat} (hw : w.IsApart number) (h : Follows w w') :
    w'.IsApart number := by
  intro m' other m₁' hm' hm₁' hne
  obtain ⟨m, hm, hfixed⟩ := h.symm.monitor hm'
  obtain ⟨m₁, hm₁, hfixed₁⟩ := h.symm.monitor hm₁'
  rw [Monitor.eq_of_fixed hfixed.symm, Monitor.eq_of_fixed hfixed₁.symm]
  exact hw m other m₁ hm hm₁ hne

theorem InStep.of_standing {w w' : World} {number : Nat} (hw : w.InStep number)
    (h : w'.standing = w.standing) : w'.InStep number := by
  have hsources : w'.sources.map (·.paused) = w.sources.map (·.paused) := congrArg Standing.flags h
  have hmonitors : w.monitors.map Monitor.bare = w'.monitors.map Monitor.bare :=
    congrArg Standing.monitors h.symm
  intro m' hm' event hevent
  have hprefix : w'.monitors.map Monitor.bare <+: w.monitors.map Monitor.bare :=
    hmonitors ▸ List.prefix_rfl
  obtain ⟨m, hm, hsame⟩ := getElem?_of_prefix hprefix hm'
  have hevents : m'.events = m.events := by
    rw [Monitor.eq_of_fixed (Monitor.fixed_of_bare hsame.symm)]
  rw [hevents] at hevent
  rw [← List.getElem?_map, hsources, List.getElem?_map, Monitor.paused_of_bare hsame.symm]
  exact hw m hm event hevent

/-- A transition of a monitor moves the sources of the monitor with it. -/
theorem InStep.steer_self {w : World} {number : Nat} (hw : w.InStep number) {m : Monitor}
    (h : w.monitors[number]? = some m) (paused : Bool) :
    (w.steer number m paused).InStep number := by
  obtain ⟨schedule, heq⟩ := steer_eq h paused
  rw [heq]
  intro m' hm' event hevent
  have hmodified : (w.monitors.modify number (Monitor.flag paused))[number]? = some m' := hm'
  rw [List.getElem?_modify_eq, h] at hmodified
  cases hmodified
  obtain ⟨s, hs, hpaused⟩ := Option.map_eq_some_iff.mp (hw m h event hevent)
  show (flagSources _ _ w.sources)[event.2]?.map (·.paused) = some paused
  unfold flagSources
  rw [List.getElem?_mapIdx]
  by_cases hstays : m.paused = paused
  · simp [hs, hpaused, hstays]
  · have hmem : event.2 ∈ m.events.map (·.2) := List.mem_map_of_mem hevent
    simp only [hs, hstays, if_false, hmem, if_true, Option.map_some, Source.flag]

/-- A transition of another monitor leaves the sources of this one. -/
theorem InStep.steer_other {w : World} {number : Nat} (hw : w.InStep number)
    (hapart : w.IsApart number) {other : Nat} (hne : other ≠ number) {m : Monitor}
    (h : w.monitors[other]? = some m) (paused : Bool) :
    (w.steer other m paused).InStep number := by
  obtain ⟨schedule, heq⟩ := steer_eq h paused
  rw [heq]
  intro m' hm' event hevent
  have hmodified : w.monitors[number]? = some m' := by
    have hlisted : (w.monitors.modify other (Monitor.flag paused))[number]? = some m' := hm'
    simpa [List.getElem?_modify, hne] using hlisted
  have hnot : event.2 ∉ if m.paused = paused then [] else m.events.map (·.2) := by
    split
    · simp
    · exact hapart m' other m hmodified h hne event hevent
  show (flagSources _ _ w.sources)[event.2]?.map (·.paused) = _
  unfold flagSources
  rw [List.getElem?_mapIdx]
  simpa [hnot] using hw m' hmodified event hevent

theorem InStep.steer {w : World} {number : Nat} (hw : w.InStep number) (hapart : w.IsApart number)
    {other : Nat} {m : Monitor} (h : w.monitors[other]? = some m) (paused : Bool) :
    (w.steer other m paused).InStep number := by
  by_cases hsame : other = number
  · subst hsame
    exact hw.steer_self h paused
  · exact hw.steer_other hapart hsame h paused

section Added

variable {own : String → Prop} {w w' : World} {m : Monitor}

theorem monitor_of_added {other : Nat} {m' : Monitor}
    (h : (w.monitors ++ [m])[other]? = some m') (hne : other ≠ w.monitors.length) :
    w.monitors[other]? = some m' := by
  have hlt : other < (w.monitors ++ [m]).length := (List.getElem?_eq_some_iff.mp h).1
  rw [List.length_append, List.length_singleton] at hlt
  rwa [List.getElem?_append_left (by omega)] at h

/-- A monitor that is added with new sources leaves the world orderly. -/
theorem IsOrderly.addMonitor (hw : w.IsOrderly) (hgrows : w.Grows own w')
    (hmonitors : w'.monitors = w.monitors)
    (hm : m.IsFresh w.sources.length w'.sources.length) :
    ({ w' with monitors := w'.monitors ++ [m] } : World).IsOrderly := by
  intro other hother
  rcases List.mem_append.mp hother with hold | hadded
  · obtain ⟨hsteered, hsources⟩ := hw other (hmonitors ▸ hold)
    exact ⟨hsteered, fun event hevent =>
      Nat.lt_of_lt_of_le (hsources event hevent) hgrows.length_le⟩
  · rw [List.mem_singleton.mp hadded]
    exact ⟨hm.steered, fun event hevent => (hm.sources event hevent).2⟩

/-- The new sources are those of no other monitor: theirs were there before. -/
theorem IsOrderly.isApart_addMonitor (hw : w.IsOrderly) (hmonitors : w'.monitors = w.monitors)
    (hm : m.IsFresh w.sources.length w'.sources.length) :
    ({ w' with monitors := w'.monitors ++ [m] } : World).IsApart w.monitors.length := by
  have hall : w'.monitors ++ [m] = w.monitors ++ [m] := by rw [hmonitors]
  intro m₁ other m₂ hm₁ hm₂ hne event hevent hshared
  have hnew : (w.monitors ++ [m])[w.monitors.length]? = some m₁ := hall ▸ hm₁
  have hother : (w.monitors ++ [m])[other]? = some m₂ := hall ▸ hm₂
  rw [List.getElem?_concat_length] at hnew
  cases hnew
  obtain ⟨event', hevent', hsame⟩ := List.mem_map.mp hshared
  have hold := List.mem_of_getElem? (monitor_of_added hother hne)
  have hbefore := (hw m₂ hold).2 event' hevent'
  have hafter := (hm.sources event hevent).1
  omega

/-- The new sources run, and so does the monitor. -/
theorem inStep_addMonitor (hgrows : w.Grows own w') (hmonitors : w'.monitors = w.monitors)
    (hm : m.IsFresh w.sources.length w'.sources.length) :
    ({ w' with monitors := w'.monitors ++ [m] } : World).InStep w.monitors.length := by
  intro m₁ hm₁ event hevent
  have hnew : (w'.monitors ++ [m])[w'.monitors.length]? = some m₁ := hmonitors ▸ hm₁
  rw [List.getElem?_concat_length] at hnew
  cases hnew
  obtain ⟨hle, hlt⟩ := hm.sources event hevent
  have hnone : w.sources[event.2]? = none := List.getElem?_eq_none_iff.mpr hle
  have hsome : w'.sources[event.2]? = some w'.sources[event.2] := List.getElem?_eq_getElem hlt
  show w'.sources[event.2]?.map (·.paused) = _
  rw [hsome, Option.map_some, (hgrows.fresh _ _ hnone hsome).2, hm.running]

end Added

end World

/-! ## User code -/

/-- The property holds of orderly worlds only, and is kept by code and by transitions. -/
structure IsKeptBySteering (P : World → Prop) : Prop extends IsKeptByCode P where
  orderly : ∀ w, P w → w.IsOrderly
  steer : ∀ w number m paused, w.monitors[number]? = some m → P w → P (w.steer number m paused)

theorem isKeptBySteering_follows {w : World} (hw : w.IsOrderly) : IsKeptBySteering w.Follows where
  toIsKeptByCode := .of_view isKeptByCode_standing fun _ _ h hf => hf.trans (.of_standing h)
  orderly _ hf := hw.follows hf
  steer _ _ _ paused hm hf := hf.trans (World.follows_steer hm paused)

/-- Code keeps the sources of a monitor in step with it, where they belong to no other. -/
theorem isKeptBySteering_inStep {w : World} (hw : w.IsOrderly) {number : Nat}
    (hapart : w.IsApart number) :
    IsKeptBySteering fun w' => w.Follows w' ∧ w'.InStep number where
  toIsKeptByCode := .of_view isKeptByCode_standing fun _ _ h hf =>
    ⟨hf.1.trans (.of_standing h), hf.2.of_standing h⟩
  orderly _ hf := hw.follows hf.1
  steer _ _ _ paused hm hf :=
    ⟨hf.1.trans (World.follows_steer hm paused), hf.2.steer (hapart.follows hf.1) hm paused⟩

section Code

variable {P : World → Prop} (depth : Nat) (thread : String)

theorem steering_preserves (hP : IsKeptBySteering P) (number : Nat) (paused : Bool) :
    Preserves P (transition (execute (depth + 1) thread number) number (transitionTo paused)) := by
  intro w hw
  cases hm : w.monitors[number]? with
  | none => rwa [transition_of_none _ hm]
  | some m =>
    rw [transition_steers hm (hP.orderly w hw m (List.mem_of_getElem? hm)).1]
    exact hP.steer w number m paused hm hw

/-- The answer to a request leaves an orderly world. -/
theorem answer_isOrderly {w : World} (hw : w.IsOrderly) (request : Request) :
    (answer (execute (depth + 1) thread) request w).2.IsOrderly := by
  have hfollows := isKeptBySteering_follows hw
  exact hw.follows (answer_preserves hfollows.toIsKeptByCode
    (steering_preserves depth thread hfollows) request w (.refl w))

/-- User code preserves what single changes and transitions keep. -/
theorem Body.run_preserves_of_steering (hP : IsKeptBySteering P) (body : Body) :
    Preserves P (body.run (answer (execute (depth + 1) thread)) thread) :=
  Body.run_preserves hP.note
    (answer_preserves hP.toIsKeptByCode (steering_preserves depth thread hP)) thread body

theorem bind_congr_at {α β : Type} {x y : Run α} {f : α → Run β} {w : World} (h : x w = y w) :
    (x >>= f) w = (y >>= f) w := by
  cases hx : x w with
  | mk outcome w' =>
    rw [hx] at h
    cases outcome with
    | ok a => rw [bind_of_ok hx, bind_of_ok h.symm]
    | error halt => rw [bind_of_error hx, bind_of_error h.symm]

theorem attempt_congr {α : Type} {x y : Run α} {w : World} (h : x w = y w) :
    x.attempt w = y.attempt w := by
  cases hx : x w with
  | mk outcome w' =>
    rw [hx] at h
    cases outcome with
    | ok a => rw [Run.attempt_of_ok hx, Run.attempt_of_ok h.symm]
    | error halt =>
      unfold Run.attempt
      rw [tryCatch_of_error (bind_of_error hx), tryCatch_of_error (bind_of_error h.symm)]

/-- Requests are answered alike where transitions end alike. -/
theorem answer_congr {call call' : Nat → List Stmt → Run Unit} {w : World}
    (h : ∀ number paused, transition (call number) number (transitionTo paused) w =
      transition (call' number) number (transitionTo paused) w) (request : Request) :
    answer call request w = answer call' request w := by
  cases request with
  | pause monitor => exact bind_congr_at (h monitor true)
  | resume monitor => exact bind_congr_at (h monitor false)
  | _ => rfl

/-- In an orderly world transitions end alike, however deep calls may be nested. -/
theorem transition_congr {w : World} (hw : w.IsOrderly) (depth' number : Nat) (paused : Bool) :
    transition (execute (depth + 1) thread number) number (transitionTo paused) w =
      transition (execute (depth' + 1) thread number) number (transitionTo paused) w := by
  cases hm : w.monitors[number]? with
  | none => rw [transition_of_none _ hm, transition_of_none _ hm]
  | some m =>
    have hsteered := (hw m (List.mem_of_getElem? hm)).1
    rw [transition_steers hm hsteered, transition_steers hm hsteered]

/-- A body runs alike where its requests are answered alike. -/
theorem Body.run_congr (hP : IsKeptByCode P) {answer answer' : Request → Run Json}
    (hanswer : ∀ request, Preserves P (answer request))
    (h : ∀ request w, P w → answer request w = answer' request w) :
    ∀ (body : Body) {w : World}, P w → body.run answer thread w = body.run answer' thread w
  | .done, _, _ => rfl
  | .fail _, _, _ => rfl
  | .crash, _, _ => rfl
  | .note who entry next, w, hw => by
    rw [Body.run, Body.run, modify_bind, modify_bind]
    exact run_congr hP hanswer h next (hP.note w thread who entry hw)
  | .ask request next, w, hw => by
    have hsame := attempt_congr (h request w hw)
    have hkept := (hanswer request).attempt w hw
    rw [Body.run, Body.run]
    cases hrun : (answer request).attempt w with
    | mk outcome w' =>
      rw [hrun] at hsame hkept
      cases outcome with
      | error halt => rw [bind_of_error hrun, bind_of_error hsame.symm]
      | ok result =>
        rw [bind_of_ok hrun, bind_of_ok hsame.symm]
        exact run_congr hP hanswer h (next result) hkept

/-- User code runs alike in an orderly world, however deep calls may be nested. -/
theorem Body.run_eq_perform {w : World} (hw : w.IsOrderly) (body : Body) :
    body.run (answer (execute (depth + 1) thread)) thread w = body.perform thread w := by
  have hfollows := isKeptBySteering_follows hw
  refine Body.run_congr thread hfollows.toIsKeptByCode
    (answer_preserves hfollows.toIsKeptByCode (steering_preserves depth thread hfollows)) ?_ body
    (.refl w)
  intro request w' hw'
  exact answer_congr (transition_congr depth thread (hw.follows hw') 63) request

/-- User code that was run preserves what single changes and transitions keep. -/
theorem Body.perform_preserves (hP : IsKeptBySteering P) {body : Body} {w w' : World}
    {outcome : Except Halt Unit} (h : body.perform thread w = (outcome, w')) (hw : P w) : P w' := by
  have hkept := Body.run_preserves_of_steering 63 thread hP body w hw
  have hleft : (body.perform thread w).2 = w' := by rw [h]
  rw [← hleft]
  exact hkept

end Code

end Watchtower.Live
