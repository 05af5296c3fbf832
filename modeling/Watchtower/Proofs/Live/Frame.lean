-- What a running system leaves alone. Whatever user code asks for and whatever the methods of
-- monitors do, no source changes its name, its trigger or its consumer, no consumer its place,
-- and no monitor its events and handlers.
import Watchtower.Proofs.Live.Growth
import Watchtower.Proofs.Live.Preservation

namespace Watchtower.Live

theorem map_modify_of_eq {α β : Type} {f : α → β} {g : α → α} (hg : ∀ a, f (g a) = f a)
    (items : List α) (i : Nat) : (items.modify i g).map f = items.map f := by
  apply List.ext_getElem?
  intro j
  rw [List.getElem?_map, List.getElem?_map, List.getElem?_modify]
  by_cases hij : i = j
  · simp [hij, Function.comp_def, hg]
  · simp [hij]

theorem map_set_of_eq {α β : Type} {f : α → β} {items : List α} {i : Nat} {a a' : α}
    (h : items[i]? = some a) (hf : f a' = f a) : (items.set i a').map f = items.map f := by
  obtain ⟨hlt, rfl⟩ := List.getElem?_eq_some_iff.mp h
  rw [List.map_set, hf, ← List.getElem_map f, List.set_getElem_self]
  simpa using hlt

/-- What has an entry at an index keeps it. -/
theorem getElem?_of_prefix {α β : Type} {f : α → β} {items items' : List α}
    (h : items.map f <+: items'.map f) {i : Nat} {a : α} (ha : items[i]? = some a) :
    ∃ a', items'[i]? = some a' ∧ f a' = f a := by
  have hmapped : (items.map f)[i]? = some (f a) := by simp [ha]
  have hlt : i < (items.map f).length := (List.getElem?_eq_some_iff.mp hmapped).1
  have hsame : (items'.map f)[i]? = some (f a) := by
    rw [← hmapped, List.getElem?_eq_getElem hlt]
    exact List.prefix_iff_getElem?.mp h i hlt
  rw [List.getElem?_map] at hsame
  exact Option.map_eq_some_iff.mp hsame

/-- How the parts of a world hang together. -/
structure Wiring where
  /-- The name, the trigger and the consumer of each source. -/
  sources : List (String × Trigger × Option Nat)
  consumers : List ConsumerConfig
  /-- The name, the events and the handlers of each monitor. -/
  monitors : List (String × List (String × Nat) × List (String × Handler))

def Source.wiring (s : Source) : String × Trigger × Option Nat :=
  (s.name, s.trigger, s.consumer)

def Monitor.wiring (m : Monitor) : String × List (String × Nat) × List (String × Handler) :=
  (m.qualifiedName, m.events, m.handlers)

namespace World

def wiring (w : World) : Wiring :=
  ⟨w.sources.map Source.wiring, w.consumers.map (·.config), w.monitors.map Monitor.wiring⟩

/-- Only sources, consumers and monitors count. -/
theorem wiring_congr {w w' : World}
    (hsources : w'.sources.map Source.wiring = w.sources.map Source.wiring)
    (hconsumers : w'.consumers.map (·.config) = w.consumers.map (·.config))
    (hmonitors : w'.monitors.map Monitor.wiring = w.monitors.map Monitor.wiring) :
    w'.wiring = w.wiring := by
  unfold wiring
  rw [hsources, hconsumers, hmonitors]

/-! ## Growth -/

/-- Whatever is there keeps its wiring, while more may be added. -/
structure Keeps (w w' : World) : Prop where
  sources : w.wiring.sources <+: w'.wiring.sources
  consumers : w.wiring.consumers <+: w'.wiring.consumers
  monitors : w.wiring.monitors <+: w'.wiring.monitors

theorem Keeps.of_eq {w w' : World} (h : w'.wiring = w.wiring) : Keeps w w' :=
  ⟨h ▸ List.prefix_rfl, h ▸ List.prefix_rfl, h ▸ List.prefix_rfl⟩

theorem Keeps.refl (w : World) : Keeps w w := .of_eq rfl

theorem Keeps.trans {w₁ w₂ w₃ : World} (h : Keeps w₁ w₂) (h' : Keeps w₂ w₃) : Keeps w₁ w₃ :=
  ⟨h.sources.trans h'.sources, h.consumers.trans h'.consumers, h.monitors.trans h'.monitors⟩

theorem Grows.keeps {own : String → Prop} {w w' : World} (h : Grows own w w') : Keeps w w' := by
  obtain ⟨consumers, hconsumers, -⟩ := h.consumers
  obtain ⟨monitors, hmonitors, -⟩ := h.monitors
  have hsources : w.sources <+: w'.sources := by
    rw [List.prefix_iff_getElem?]
    intro i hi
    exact h.kept i _ (List.getElem?_eq_getElem hi)
  refine ⟨hsources.map _, List.IsPrefix.map _ ?_, List.IsPrefix.map _ ?_⟩
  · rw [hconsumers]
    exact List.prefix_append _ _
  · rw [hmonitors]
    exact List.prefix_append _ _

theorem Keeps.source {w w' : World} (h : Keeps w w') {i : Nat} {s : Source}
    (hs : w.sources[i]? = some s) : ∃ s', w'.sources[i]? = some s' ∧ s'.wiring = s.wiring :=
  getElem?_of_prefix h.sources hs

theorem Keeps.consumer {w w' : World} (h : Keeps w w') {i : Nat} {c : Consumer}
    (hc : w.consumers[i]? = some c) : ∃ c', w'.consumers[i]? = some c' ∧ c'.config = c.config :=
  getElem?_of_prefix h.consumers hc

theorem Keeps.monitor {w w' : World} (h : Keeps w w') {i : Nat} {m : Monitor}
    (hm : w.monitors[i]? = some m) : ∃ m', w'.monitors[i]? = some m' ∧ m'.wiring = m.wiring :=
  getElem?_of_prefix h.monitors hm

/-! ## Operations -/

theorem wiring_steerSource (w : World) (paused : Bool) (source : Nat) :
    (w.steerSource paused source).wiring = w.wiring := by
  obtain ⟨schedule, heq⟩ := steerSource_eq paused w source
  rw [heq]
  refine wiring_congr ?_ rfl rfl
  apply map_modify_of_eq
  intro s
  rfl

theorem wiring_openProbe (w : World) (source : Nat) (routingKey : String) :
    (w.openProbe source routingKey).2.wiring = w.wiring := by
  unfold openProbe
  split
  · rfl
  · simp only []
    split
    · rfl
    · refine wiring_congr ?_ rfl rfl
      apply map_modify_of_eq
      intro s
      rfl

/-- A source without a consumer gets the one that is started for it, or none. -/
theorem source_of_consume {w w' : World} {source : Nat} {s : Source} {config : ConsumerConfig}
    {site : String} (hs : w.sources[source]? = some s) (hnone : s.consumer = none)
    (h : w.consume source config = .ok w' ∨
      ∃ fault, w.consume source config = .error fault ∧ w' = w.record site fault) :
    ∃ s', w'.sources[source]? = some s' ∧ s'.name = s.name ∧ s'.trigger = s.trigger ∧
      ∀ c, s'.consumer = some c → w'.consumers[c]?.map (·.config) = some config := by
  rcases consume_cases h with rfl | ⟨fault, rfl⟩
  · refine ⟨{ s with consumer := some w.consumers.length }, ?_, rfl, rfl, ?_⟩
    · simp [tune, hs]
    · rintro c ⟨⟩
      simp [tune, nextConsumer]
  · refine ⟨s, hs, rfl, rfl, fun c hc => ?_⟩
    rw [hnone] at hc
    cases hc

theorem wiring_setMonitor {w : World} {number : Nat} {m m' : Monitor}
    (hm : w.monitors[number]? = some m) (hsame : m'.wiring = m.wiring) :
    ({ w with monitors := w.monitors.set number m' } : World).wiring = w.wiring :=
  wiring_congr rfl rfl (map_set_of_eq hm hsame)

theorem wiring_observe (w : World) (source : Nat) (observer : Observer) :
    (w.modifySource source (·.observe observer)).wiring = w.wiring := by
  refine wiring_congr ?_ rfl rfl
  apply map_modify_of_eq
  intro s
  rfl

theorem wiring_subscribe {w w' : World} {number : Nat} {event handler : String}
    (h : w.subscribe number event handler = .ok w') : w'.wiring = w.wiring := by
  rcases subscribe_eq_ok h with ⟨source, s, schedule, jobs, hs, rfl⟩ | ⟨source, observer, rfl⟩
  · exact wiring_congr (map_set_of_eq hs rfl) rfl rfl
  · exact w.wiring_observe source observer

end World

/-! ## Runs -/

/-- The run leaves the wiring of every world alone. -/
def IsSteady {α : Type} (run : Run α) : Prop := ∀ w, (run w).2.wiring = w.wiring

/-- No single change concerns the wiring. -/
theorem isKept_wiring (wiring : Wiring) : IsKept fun w => w.wiring = wiring where
  note _ _ _ _ h := h
  stop := by
    rintro w number c c' bus hc hconfig rfl
    exact World.wiring_congr rfl (map_set_of_eq hc hconfig) rfl
  schedule _ _ h := h
  subscribe := by
    rintro w source s schedule jobs hs rfl
    exact World.wiring_congr (map_set_of_eq hs rfl) rfl rfl
  observe w source observer h := (w.wiring_observe source observer).trans h
  assign := by
    rintro w number m vars hm rfl
    exact World.wiring_setMonitor hm rfl
  publish _ _ _ h := h
  record _ _ _ h := h
  flag := by
    rintro w number m paused hm rfl
    exact World.wiring_setMonitor hm rfl
  steer w paused source h := (w.wiring_steerSource paused source).trans h
  bind := by
    rintro w number m proxies hm rfl
    exact World.wiring_setMonitor hm rfl

/-- Whatever the statements of a monitor do, they leave the wiring alone. -/
theorem execute_isSteady (depth : Nat) (thread : String) (number : Nat) (stmts : List Stmt) :
    IsSteady (execute depth thread number stmts) :=
  fun w => execute_preserves (isKept_wiring w.wiring) depth thread number stmts w rfl

end Watchtower.Live
