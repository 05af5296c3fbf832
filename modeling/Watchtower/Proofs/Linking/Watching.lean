-- Watching a variable. A handler that is subscribed to a tuned source hears of every write of its
-- variable that passes the specifier while its monitor runs. A step of the system keeps all that
-- the subscription rests on, and a run adds to the journal what its steps add.
import Watchtower.Proofs.Linking.Event
import Watchtower.Proofs.Linking.Space
import Watchtower.Proofs.Live.Listening

namespace Watchtower.Linking

open Live
open Source (Specifier)
open Text (Undotted)

/-! ## Steps -/

/-- A place for a value: a variable of the node to which a path leads from a root. -/
structure Place where
  root : String
  path : List String
  name : String
deriving DecidableEq, Repr

/-- What is done to a linked system. -/
inductive Step where
  /-- Write a variable of a linked namespace. -/
  | set (place : Place) (value : Json)
  | pause (monitor : Nat)
  | resume (monitor : Nat)

/-- The node of a linked namespace to which a place belongs. -/
def nodeOf? (w : World) (place : Place) : Option Handle :=
  (w.spaces.lookup place.root).bind (·.descend? place.path)

/-- Does a step. Of a write that succeeds it keeps the value that was there before. -/
def Step.perform (w : World) : Step → Option Json × World
  | .set place value =>
    match nodeOf? w place with
    | none => (none, w)
    | some node =>
      match w.set node place.name value with
      | .ok (_, w') => ((w.get node place.name).toOption, w')
      | .error _ => (none, w)
  | .pause monitor => (none, (pauseMonitor "" monitor w).2)
  | .resume monitor => (none, (resumeMonitor "" monitor w).2)

/-- Does steps one after the other, each followed by a flush, and keeps their outcomes. -/
def runSteps (w : World) : List Step → List (Step × Option Json) × World
  | [] => ([], w)
  | step :: rest =>
    let (outcome, w) := step.perform w
    let (trace, w) := runSteps w.flush rest
    ((step, outcome) :: trace, w)

/-! ## What is to be heard -/

/-- The value that a step replaces at a place and the one that it writes, if the change passes the
specifier. -/
def Step.change? (place : Place) (specifier : Option Specifier) :
    Step → Option Json → Option (Json × Json)
  | .set written value, some previous =>
    if written = place ∧ passes specifier previous value then some (previous, value) else none
  | _, _ => none

/-- Whether a monitor runs after a step. -/
def Step.leaves (monitor : Nat) (running : Bool) : Step → Bool
  | .set .. => running
  | .pause other => running && other != monitor
  | .resume other => running || other == monitor

/-- The changes of a place that pass a specifier while a monitor runs, in their order. -/
def changesOf (monitor : Nat) (place : Place) (specifier : Option Specifier) :
    Bool → List (Step × Option Json) → List (Json × Json)
  | _, [] => []
  | running, (step, outcome) :: rest =>
    (if running then (step.change? place specifier outcome).toList else [])
      ++ changesOf monitor place specifier (step.leaves monitor running) rest

/-! ## Subscriptions -/

/-- A handler that watches a variable: its monitor, the source of the event, its observer and the
queue, and which changes of which variable it waits for. -/
structure Watch where
  monitor : Nat
  source : Nat
  observer : Observer
  queue : String
  place : Place
  specifier : Option Specifier

/-- The path of the variable below its root, with dots. -/
def Place.below (p : Place) : String := Text.join "." (p.path ++ [p.name])

/-- Where the consumer of a watch is bound. -/
def Watch.config (package : Option String) (watch : Watch) : ConsumerConfig :=
  { exchange := Source.qualify package (Naming.pascal watch.place.root)
    routingKey := watch.place.root
    queue := watch.queue }

/-- The observer belongs to its monitor, takes changes and does nothing but take notes, and the
variable has a name without dots. -/
structure Watch.IsSound (watch : Watch) : Prop where
  names : ∀ s ∈ watch.place.path ++ [watch.place.name], Undotted s
  kind : watch.observer.kind = .change
  owner : watch.observer.owner = some watch.monitor
  noting : ∀ payload, (watch.observer.react payload).IsNoting

/-- What a watch rests on: its source is tuned to the variable and has no other observer, and
its monitor alone steers the source. -/
structure IsWatching (package : Option String) (watch : Watch) (running : Bool) (w : World) :
    Prop where
  sound : watch.IsSound
  wired : w.IsWired
  spaces : HasSpaces w package 0
  tuned : ∃ filter, w.IsTuned watch.source (watch.config package) watch.place.below filter ∧
    ∀ previous current, filter.all (·.passes previous current) =
      passes watch.specifier previous current
  observed : w.sources[watch.source]?.map (fun s => (s.observers, s.paused)) =
    some ([watch.observer], !running)
  others : ∀ (i : Nat) (s : Source), w.sources[i]? = some s → i ≠ watch.source → s.observers = []
  monitors : ∀ m ∈ w.monitors, m.IsSteered ∧ m.dropped = false
  owner : ∃ m, w.monitors[watch.monitor]? = some m ∧ m.paused = !running ∧
    watch.source ∈ m.events.map (·.2)
  alone : ∀ (k : Nat) (m : Monitor), w.monitors[k]? = some m → watch.source ∈ m.events.map (·.2) →
    k = watch.monitor

section Watching

variable {package : Option String} {watch : Watch} {running : Bool} {w : World}

/-- A watch rests neither on the stores nor on the journal, nor on the count of flushes. -/
theorem IsWatching.after (h : IsWatching package watch running w) (stores : List Store)
    (journal : List JournalEntry) (flushes : Nat) :
    IsWatching package watch running
      { w with stores, journal, bus := { w.bus with flushes } } := by
  obtain ⟨filter, htuned, hpasses⟩ := h.tuned
  exact ⟨h.sound, ⟨h.wired.bindings, h.wired.channels, h.wired.owned, h.wired.listens⟩, h.spaces,
    ⟨filter, ⟨htuned.trigger, htuned.consumer⟩, hpasses⟩, h.observed, h.others, h.monitors, h.owner,
    h.alone⟩

/-- Who watches a variable listens to the source of the event. -/
def Watch.listening (package : Option String) (watch : Watch) : Listening :=
  { monitor := watch.monitor
    source := watch.source
    observer := watch.observer
    config := watch.config package }

theorem IsWatching.listening (h : IsWatching package watch running w) :
    IsListening (watch.listening package) running w := by
  obtain ⟨filter, htuned, -⟩ := h.tuned
  exact ⟨h.sound.noting, h.sound.owner, h.wired, htuned.consumer, h.observed, h.others, h.monitors,
    h.owner, h.alone⟩

/-- Who listens to a source of the right trigger watches the variable. -/
theorem isWatching_of_isListening (hsound : watch.IsSound) (hspaces : HasSpaces w package 0)
    {filter : Option ChangeFilter} (htrigger : w.sources[watch.source]?.map (·.trigger) =
      some (.change watch.place.root watch.place.below filter))
    (hpasses : ∀ previous current, filter.all (·.passes previous current) =
      passes watch.specifier previous current)
    (h : IsListening (watch.listening package) running w) : IsWatching package watch running w :=
  ⟨hsound, h.wired, hspaces, ⟨filter, ⟨htrigger, h.consumer⟩, hpasses⟩, h.observed, h.others,
    h.monitors, h.owner, h.alone⟩

/-- What the source of the watch lets its observer note of a change. -/
theorem IsWatching.heardAt_source (h : IsWatching package watch running w) (thread written : String)
    (previous value : Json) :
    w.heardAt thread (.change written previous value) watch.source =
      if running ∧ written = watch.place.below ∧ passes watch.specifier previous value then
        (watch.observer.react (.change written previous value)).entries thread
      else [] := by
  obtain ⟨filter, htuned, hpasses⟩ := h.tuned
  obtain ⟨s, hs, htrigger⟩ := Option.map_eq_some_iff.mp htuned.trigger
  have haccepts : s.accepts (.change written previous value) =
      (decide (written = watch.place.below) && passes watch.specifier previous value) := by
    unfold Source.accepts
    simp only [htrigger, hpasses]
  have hkind : Payload.kind (.change written previous value) = watch.observer.kind :=
    h.sound.kind.symm
  have hheard := h.listening.heardAt_source hs thread (.change written previous value)
  simp only [Watch.listening, haccepts, hkind, and_true, Bool.and_eq_true, decide_eq_true_eq]
    at hheard
  exact hheard

/-! ## One step -/

/-- What the observer of a watch notes of a change of its variable. -/
def Watch.notes (watch : Watch) (change : Json × Json) : List JournalEntry :=
  (watch.observer.react (.change watch.place.below change.1 change.2)).entries watch.queue

/-- What a step is to add to the journal. -/
def Watch.added (watch : Watch) (running : Bool) (step : Step) (outcome : Option Json) :
    List JournalEntry :=
  (if running then (step.change? watch.place watch.specifier outcome).toList else []).flatMap
    watch.notes

/-- Places below one root whose names have no dots are told apart by their dotted paths. -/
theorem Place.eq_of_below {p q : Place} (hp : ∀ s ∈ p.path ++ [p.name], Undotted s)
    (hq : ∀ s ∈ q.path ++ [q.name], Undotted s) (hroot : p.root = q.root)
    (h : p.below = q.below) : p = q := by
  have hpieces := Text.join_dots_inj (by simp) (by simp) hp hq h
  obtain ⟨hpath, hname⟩ := List.append_inj' hpieces rfl
  obtain ⟨root, path, name⟩ := p
  simp only at hroot hpath hname
  cases hname
  rw [hroot, hpath]

/-- Nothing is heard when a system is flushed in which nothing waits. -/
theorem IsWatching.flush (h : IsWatching package watch running w) :
    IsWatching package watch running w.flush ∧ w.flush.journal = w.journal := by
  rw [World.flush_idle h.wired h.listening.isNoting]
  exact ⟨h.after w.stores w.journal _, rfl⟩

/-- A write that succeeds is heard if it is one that the watch waits for. -/
theorem IsWatching.set_of_ok (h : IsWatching package watch running w) {place : Place} {node : Handle}
    {value previous : Json} {w' : World} (hnode : nodeOf? w place = some node)
    (hset : w.set node place.name value = .ok (previous, w')) :
    IsWatching package watch running w'.flush ∧
      w'.flush.journal = w.journal ++ watch.added running (.set place value) (some previous) := by
  obtain ⟨handle, hroot, hdescend⟩ := Option.bind_eq_some_iff.mp hnode
  obtain ⟨hnames, stores, hw'⟩ := set_publishes h.spaces hroot hdescend hset
  have h₁ : IsWatching package watch running { w with stores } :=
    h.after stores w.journal w.bus.flushes
  have hflush := World.flush_published h₁.wired h₁.listening.isNoting
    (Source.qualify package (Naming.pascal place.root)) place.root
    (.change place.below previous value)
  have hheard := h₁.listening.heard (Source.qualify package (Naming.pascal place.root)) place.root
    [.change place.below previous value]
  simp only [Watch.listening, List.flatMap_cons, List.flatMap_nil, List.append_nil] at hheard
  rw [hheard] at hflush
  have hflushed : w'.flush = _ := (congrArg World.flush hw').trans hflush
  refine ⟨?_, ?_⟩
  · rw [hflushed]
    exact h.after stores _ _
  · rw [hflushed]
    show w.journal ++ _ = _
    congr 1
    unfold Watch.added Step.change?
    rw [h₁.heardAt_source]
    -- Other places below the root are published to the same consumer, but under other paths.
    by_cases hplace : place = watch.place
    · subst hplace
      simp only [Watch.config, true_and, if_true, and_self]
      by_cases hheard : running ∧ passes watch.specifier previous value
      · simp [hheard, Watch.notes]
      · cases running with
        | false => simp
        | true => simp_all
    · have hnot : ¬ (watch.place.root = place.root ∧ place.below = watch.place.below) :=
        fun hboth => hplace (Place.eq_of_below hnames h.sound.names hboth.1.symm hboth.2)
      by_cases hroot : watch.place.root = place.root
      · have hbelow : place.below ≠ watch.place.below := fun heq => hnot ⟨hroot, heq⟩
        simp [hplace, hbelow]
      · simp [Watch.config, hplace, hroot]

/-- A transition of a monitor reaches the source of the watch just where it is the monitor of the
watch. -/
theorem IsWatching.transition (h : IsWatching package watch running w) (number : Nat)
    (paused : Bool) {w' : World}
    (hw' : w' = (Live.transition (execute callDepth "" number) number (transitionTo paused) w).2) :
    IsWatching package watch (if number = watch.monitor then !paused else running) w'.flush ∧
      w'.flush.journal = w.journal := by
  obtain ⟨w₁, hrun, hlistening, ⟨schedule, monitors, sources, hsame⟩, htriggers⟩ :=
    h.listening.transition w.bus "" number paused
  have hw₁ : w' = w₁ := by
    rw [hw']
    refine hrun.trans ?_
    rw [hsame]
  obtain ⟨filter, htuned, hpasses⟩ := h.tuned
  have htrigger : w₁.sources[watch.source]?.map (·.trigger) =
      some (.change watch.place.root watch.place.below filter) := by
    rw [← List.getElem?_map, htriggers, List.getElem?_map]
    exact htuned.trigger
  have hspaces : HasSpaces w₁ package 0 := by
    rw [hsame]
    exact h.spaces
  have hwatching := isWatching_of_isListening h.sound hspaces htrigger hpasses hlistening
  rw [hw₁]
  refine ⟨hwatching.flush.1, hwatching.flush.2.trans ?_⟩
  rw [hsame]

theorem Step.leaves_pause (number monitor : Nat) (running : Bool) :
    (Step.pause number).leaves monitor running = if number = monitor then !true else running := by
  by_cases hnumber : number = monitor
  · simp [Step.leaves, hnumber]
  · simp [Step.leaves, hnumber]

theorem Step.leaves_resume (number monitor : Nat) (running : Bool) :
    (Step.resume number).leaves monitor running = if number = monitor then !false else running := by
  by_cases hnumber : number = monitor
  · simp [Step.leaves, hnumber]
  · simp [Step.leaves, hnumber]

/-- A step keeps a watch, and adds to the journal what the watch is to hear of it. -/
theorem IsWatching.step (h : IsWatching package watch running w) (step : Step) :
    IsWatching package watch (step.leaves watch.monitor running) (step.perform w).2.flush ∧
      (step.perform w).2.flush.journal =
        w.journal ++ watch.added running step (step.perform w).1 := by
  cases step with
  | set place value =>
    have hunchanged : IsWatching package watch running w.flush ∧
        w.flush.journal = w.journal ++ watch.added running (.set place value) none := by
      refine ⟨h.flush.1, ?_⟩
      simp [h.flush.2, Watch.added, Step.change?]
    cases hnode : nodeOf? w place with
    | none =>
      simp only [Step.perform, hnode]
      exact hunchanged
    | some node =>
      cases hset : w.set node place.name value with
      | error fault =>
        simp only [Step.perform, hnode, hset]
        exact hunchanged
      | ok result =>
        simp only [Step.perform, hnode, hset, get_of_set hset]
        exact h.set_of_ok hnode hset
  | pause number =>
    have hpaused := h.transition number true rfl
    refine ⟨?_, ?_⟩
    · rw [Step.leaves_pause]
      exact hpaused.1
    · simp only [Watch.added, Step.change?, Option.toList_none, ite_self, List.flatMap_nil,
        List.append_nil]
      exact hpaused.2
  | resume number =>
    have hresumed := h.transition number false rfl
    refine ⟨?_, ?_⟩
    · rw [Step.leaves_resume]
      exact hresumed.1
    · simp only [Watch.added, Step.change?, Option.toList_none, ite_self, List.flatMap_nil,
        List.append_nil]
      exact hresumed.2

/-! ## A run -/

/-- A run adds to the journal what the watch is to hear of its steps, in their order, and nothing
else. -/
theorem IsWatching.run (h : IsWatching package watch running w) (steps : List Step) :
    (runSteps w steps).2.journal = w.journal ++
      (changesOf watch.monitor watch.place watch.specifier running (runSteps w steps).1).flatMap
        watch.notes := by
  -- On the steps. The watch is kept by each of them, together with whether its monitor runs.
  induction steps generalizing w running with
  | nil => simp [runSteps, changesOf]
  | cons step rest ih =>
    obtain ⟨hstep, hjournal⟩ := h.step step
    have hrest := ih hstep
    show (runSteps (step.perform w).2.flush rest).2.journal = w.journal ++
      (changesOf watch.monitor watch.place watch.specifier running
        ((step, (step.perform w).1) :: (runSteps (step.perform w).2.flush rest).1)).flatMap watch.notes
    rw [hrest, hjournal, changesOf, List.flatMap_append, List.append_assoc]
    rfl

end Watching

end Watchtower.Linking
