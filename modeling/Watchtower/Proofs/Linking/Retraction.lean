-- Monitors that are refused. Events are wired while the fields are made, and a later field can
-- still fail. Then the sources that were added are dropped, so nothing stays bound, and since the
-- constructor comes last no code has run.
import Watchtower.Proofs.Linking.Monitor
import Watchtower.Proofs.Live.Retraction

namespace Watchtower.Linking

open Live

/-! ## Steps of linking -/

/-- The step, however it ends, leaves a world with the property where it begins in one. -/
def Leaves {α : Type} (P : World → Prop) (step : Link α) : Prop := ∀ w, P w → P (step w).2

section Steps

variable {α β : Type} {P : World → Prop}

theorem leaves_pure (a : α) : Leaves P (pure a : Link α) := fun _ hw => hw

theorem leaves_refuse (name reason : String) : Leaves P (Link.refuse name reason : Link α) :=
  fun _ hw => hw

theorem Leaves.bind {x : Link α} {f : α → Link β} (hx : Leaves P x) (hf : ∀ a, Leaves P (f a)) :
    Leaves P (x >>= f) := by
  intro w hw
  have hfirst := hx w hw
  cases hrun : x w with
  | mk outcome w' =>
    rw [hrun] at hfirst
    cases outcome with
    | error refusal =>
      rw [bind_of_error hrun]
      exact hfirst
    | ok a =>
      rw [bind_of_ok hrun]
      exact hf a w' hfirst

theorem leaves_ofExcept (name : String) (outcome : Except Fault α) :
    Leaves P (Link.ofExcept name outcome) := by
  cases outcome with
  | ok a => exact leaves_pure a
  | error f => exact leaves_refuse name f.message

theorem leaves_foldlM {f : β → α → Link β} (hf : ∀ b a, Leaves P (f b a)) (items : List α) (b : β) :
    Leaves P (items.foldlM f b) := by
  induction items generalizing b with
  | nil => exact leaves_pure b
  | cons a rest ih =>
    rw [List.foldlM_cons]
    exact (hf b a).bind ih

end Steps

/-! ## Fields -/

/-- Sources were added to a world, and consumers were started for some of them. -/
def IsExtended (origin w : World) : Prop :=
  ∃ added started, origin.HasAdded added started w

/-- An event adds a source, and its consumer is started or not. A handler is no event. -/
theorem linkEvent_leaves {scope : MonitorScope} {item : Source.MonitorItem} {t : Blueprint}
    (h : IsTypeOf scope item t) (origin : World) : Leaves (IsExtended origin) (linkEvent t) := by
  rintro w ⟨added, started, hw⟩
  have hnumber : w.sources.length = origin.sources.length + added.length := by simp [hw.sources]
  cases h with
  | @change name emitter specifier span route _ _ predicate hroute hpredicate =>
    obtain ⟨filter, w', hlink, -, hconsume⟩ := linkEvent_ofChange_eq emitter route w hpredicate
    rw [hlink]
    have hadded := hw.addSource (s := changeSource scope name route filter) rfl
    exact hadded.consume rfl hnumber hconsume
  | @probe name occurrence emitter span hoccurrence =>
    obtain ⟨w₁, w', hlink, hprobe, hconsume⟩ :=
      linkEvent_ofProbe_eq scope name occurrence.kind emitter w
    rw [hlink]
    have hadded := hw.addSource (s := probeSource scope name occurrence.kind emitter) rfl
    obtain ⟨s, hs, hopened⟩ := hadded.openProbe hnumber (scope.member name)
    rcases hprobe with rfl | ⟨fault, rfl⟩
    · exact hopened.consume hs hnumber hconsume
    · exact (hopened.record _ fault).consume hs hnumber hconsume
  | handler hkind =>
    unfold Blueprint.ofHandler
    split
    · exact ⟨added, started, hw⟩
    · exact ⟨added, started, hw⟩

theorem linkHandler_leaves {P : World → Prop} (place : MonitorPlace) (adapter : Blueprint) :
    Leaves P (linkHandler place adapter) := by
  unfold linkHandler
  split
  · exact leaves_pure _
  · exact leaves_pure _
  · exact leaves_refuse _ _

/-- A type that is looked for is there, or the step is refused. -/
theorem nestedType_leaves {α : Type} {P : World → Prop} {b : Blueprint} {type : String}
    {f : Blueprint → Link α} (hf : ∀ t ∈ b.nested, Leaves P (f t)) :
    Leaves P (nestedType b type >>= f) := by
  intro w hw
  cases hnested : b.nested? type with
  | none =>
    have hrefused : nestedType b type w = (.error (.rejected (.notLinked b.qualifiedName
        ("nested type '" ++ type ++ "' is missing"))), w) := by
      unfold nestedType
      rw [hnested]
      rfl
    rw [bind_of_error hrefused]
    exact hw
  | some t =>
    rw [bind_of_ok (nestedType_of_some hnested w)]
    exact hf t (List.mem_of_find?_eq_some hnested) w hw

section Monitors

variable {package : Option String} {index : SpaceIndex} {decl : Source.Monitor} {b : Blueprint}

theorem addField_leaves (h : IsLoweredFrom package index decl b) (number : Nat)
    (fields : List Field) (bindings : Bindings) (members : MonitorMembers) (field : Field)
    (origin : World) :
    Leaves (IsExtended origin) (addField ⟨number, { b with fields }, bindings⟩ members field) := by
  have hnested : ∀ t ∈ b.nested, ∃ item, IsTypeOf (monitorScope package index decl) item t := by
    intro t ht
    obtain ⟨item, -, hitem⟩ := exists_of_forall₂_right h.nested ht
    exact ⟨item, hitem⟩
  unfold addField
  split
  · exact leaves_pure _
  · exact (leaves_ofExcept _ _).bind fun _ => leaves_pure _
  · rintro w ⟨added, started, hw⟩
    exact ⟨_, _, hw.addSource rfl⟩
  · refine nestedType_leaves fun t ht => ?_
    obtain ⟨item, hitem⟩ := hnested t ht
    exact (linkEvent_leaves hitem origin).bind fun _ => leaves_pure _
  · exact nestedType_leaves fun t _ => (linkHandler_leaves _ t).bind fun _ => leaves_pure _
  · exact leaves_refuse _ _

end Monitors

/-! ## Constructors -/

/-- The run ends by itself or with a crash, never with a fault. -/
def IsFaultless {α : Type} (run : Run α) : Prop := ∀ w f, (run w).1 ≠ .error (.fault f)

theorem isFaultless_pure {α : Type} (a : α) : IsFaultless (pure a : Run α) := by
  rintro w f ⟨⟩

theorem IsFaultless.bind {α β : Type} {x : Run α} {f : α → Run β} (hx : IsFaultless x)
    (hf : ∀ a, IsFaultless (f a)) : IsFaultless (x >>= f) := by
  intro w fault
  have hfirst := hx w fault
  cases hrun : x w with
  | mk outcome w' =>
    cases outcome with
    | error halt =>
      rw [hrun] at hfirst
      rw [bind_of_error hrun]
      rintro ⟨⟩
      exact hfirst rfl
    | ok a =>
      rw [bind_of_ok hrun]
      exact hf a w' fault

theorem guarded_isFaultless {α : Type} (site : String) (run : Run α) :
    IsFaultless (Run.guarded site run) := by
  intro w fault
  cases hrun : run w with
  | mk outcome w' =>
    rcases outcome with (f | _) | a
    · rw [Run.guarded_of_fault hrun]
      rintro ⟨⟩
    · unfold Run.guarded
      rw [bind_of_error (Run.attempt_of_crash hrun)]
      rintro ⟨⟩
    · rw [Run.guarded_of_ok hrun]
      rintro ⟨⟩

theorem execute_isFaultless (depth : Nat) (thread : String) (number : Nat) (site : String)
    (body : List Stmt) : IsFaultless (execute depth thread number [.guarded site body]) := by
  cases depth with
  | zero => rintro w f ⟨⟩
  | succ depth =>
    rw [execute]
    refine IsFaultless.bind ?_ fun _ => isFaultless_pure _
    rw [runStmts, runStmt]
    refine ((guarded_isFaultless _ _).bind fun _ => isFaultless_pure _).bind fun flow => ?_
    cases flow with
    | returns => exact isFaultless_pure _
    | continues => exact isFaultless_pure _

/-! ## The law -/

/-- A step with a pure end is refused when the step is. -/
theorem error_of_bind_pure {α β : Type} {x : Link α} {f : α → β} {w w' : World} {refusal : Refusal}
    (h : (x >>= fun a => pure (f a)) w = (.error refusal, w')) : x w = (.error refusal, w') := by
  cases hx : x w with
  | mk outcome w₁ =>
    cases outcome with
    | error other =>
      rw [bind_of_error hx] at h
      cases h
      rfl
    | ok a =>
      rw [bind_of_ok hx] at h
      cases h

/-- A run without faults is never why something is rejected. -/
theorem IsFaultless.not_rejected {α : Type} {run : Run α} (h : IsFaultless run) (name : String)
    (undo : World → World) (w : World) (rejection : Rejection) :
    (Link.orElseUndo (Link.ofRun name run) undo w).1 ≠ .error (.rejected rejection) := by
  have hfaultless := h w
  cases hrun : run w with
  | mk outcome w' =>
    rw [hrun] at hfaultless
    rcases outcome with (f | _) | a
    · exact absurd rfl (hfaultless f)
    · have hcrash : Link.ofRun name run w = (.error .crashed, w') := by
        unfold Link.ofRun
        rw [hrun]
      rw [orElseUndo_of_error hcrash]
      rintro ⟨⟩
    · rw [orElseUndo_of_ok (Link.ofRun_of_ok hrun)]
      rintro ⟨⟩

/-- A monitor that is refused has a field that was, and its new sources are dropped. -/
theorem linkMonitor_eq_rejected {bindings : Bindings} {b : Blueprint} (hkind : b.kind = .monitor)
    {site : String} {body : List Stmt} (hconstructor : b.constructor = [.guarded site body])
    {w w' : World} {rejection : Rejection}
    (h : linkMonitor bindings b w = (.error (.rejected rejection), w')) :
    ∃ w₁, b.fields.foldlM (addField ⟨w.monitors.length, b, bindings⟩) {} w =
        (.error (.rejected rejection), w₁) ∧
      w' = dropSourcesFrom w.sources.length w₁ := by
  unfold linkMonitor at h
  simp only [hkind, ne_eq, not_true_eq_false, if_false] at h
  rw [get_bind] at h
  cases hfields : b.fields.foldlM (addField ⟨w.monitors.length, b, bindings⟩) {} w with
  | mk outcome w₁ =>
    cases outcome with
    | error refusal =>
      rw [bind_of_error (orElseUndo_of_error hfields)] at h
      cases h
      exact ⟨w₁, rfl, rfl⟩
    | ok members =>
      rw [bind_of_ok (orElseUndo_of_ok hfields), modify_bind] at h
      have hnot := IsFaultless.not_rejected
        (hconstructor ▸ execute_isFaultless callDepth "" w.monitors.length site body)
        b.qualifiedName (·.dropMonitor w.monitors.length)
        { w₁ with monitors := w₁.monitors ++ [newMonitor b bindings members w₁.spaces] } rejection
      exact absurd (congrArg Prod.fst (error_of_bind_pure h)) hnot

/-- Without its new sources, a world has nothing of them but stopped consumers and closed
channels. -/
theorem dropSourcesFrom_hasStarted {origin w : World} (h : IsExtended origin w) :
    ∃ stopped, origin.HasStarted stopped [] (dropSourcesFrom origin.sources.length w) := by
  obtain ⟨added, started, hadded⟩ := h
  have hnew : w.sources.zipIdx.drop origin.sources.length =
      added.zipIdx origin.sources.length := by
    rw [hadded.sources, List.zipIdx_append, List.drop_left' List.length_zipIdx, Nat.zero_add]
  unfold dropSourcesFrom
  rw [hnew]
  exact hadded.started.dropSources hadded.sources (by simpa using hadded.numbers)

/-- A monitor is refused when one of its fields is. -/
theorem linkMonitor_of_refused {bindings : Bindings} {b : Blueprint} (hkind : b.kind = .monitor)
    {w w₁ : World} {refusal : Refusal}
    (hfields : b.fields.foldlM (addField ⟨w.monitors.length, b, bindings⟩) {} w =
      (.error refusal, w₁)) :
    linkMonitor bindings b w = (.error refusal, dropSourcesFrom w.sources.length w₁) := by
  unfold linkMonitor
  simp only [hkind, ne_eq, not_true_eq_false, if_false]
  rw [get_bind]
  exact bind_of_error (orElseUndo_of_error hfields)

/-- Code blocks do not matter to the fields. -/
theorem addField_congr (number : Nat) (b : Blueprint) (bindings : Bindings)
    (code : String → Nat → Option (Nat → Body)) :
    addField ⟨number, b, { bindings with code }⟩ = addField ⟨number, b, bindings⟩ := rfl

/-- Whatever the order of its fields, a lowered monitor that is refused leaves the bindings of the
bus, the jobs of the schedule and the stores as they were. The consumers that were started for its
events are stopped, their channels closed and empty, and since it would have been refused in the
same way with any other code blocks, none of these has run. -/
theorem a_refused_monitor_leaves_nothing_bound {package : Option String} {index : SpaceIndex}
    {decl : Source.Monitor} {b : Blueprint}
    (hlower : Blueprint.ofMonitor package index decl = .ok b)
    (fields : List Field) (bindings : Bindings) {w w' : World} {rejection : Rejection}
    (h : linkMonitor bindings { b with fields } w = (.error (.rejected rejection), w')) :
    w'.bus.bindings = w.bus.bindings ∧ w'.schedule = w.schedule ∧ w'.stores = w.stores ∧
      w'.connections = w.connections ∧ w'.spaces = w.spaces ∧ w'.monitors = w.monitors ∧
      w'.journal = w.journal ∧
      (∃ stopped, w'.consumers = w.consumers ++ stopped ∧
        (∀ c ∈ stopped, c.isRunning = false) ∧
        w'.bus.channels = w.bus.channels ++
          stopped.map fun c => { queue := c.config.queue, isOpen := false }) ∧
      ∀ code, linkMonitor { bindings with code } { b with fields } w =
        (.error (.rejected rejection), w') := by
  have hlowered := isLoweredFrom_of_ofMonitor hlower
  obtain ⟨blocks, -, hconstructor⟩ := hlowered.constructor
  obtain ⟨w₁, hfields, rfl⟩ :=
    linkMonitor_eq_rejected (b := { b with fields }) hlowered.kind hconstructor h
  have hextended : IsExtended w w₁ := by
    have hleaves := leaves_foldlM (addField_leaves hlowered w.monitors.length fields bindings · · w)
      fields {} w ⟨[], [], .refl w⟩
    rwa [hfields] at hleaves
  obtain ⟨stopped, hstarted⟩ := dropSourcesFrom_hasStarted hextended
  refine ⟨by simpa using hstarted.bindings, hstarted.schedule, hstarted.stores,
    hstarted.connections, hstarted.spaces, hstarted.monitors, hstarted.journal,
    ⟨stopped, by simpa using hstarted.consumers, hstarted.halted, ?_⟩, fun code => ?_⟩
  · show _ = w.bus.channels ++ stopped.map World.shutChannel
    simpa using hstarted.channels
  · apply linkMonitor_of_refused (b := { b with fields }) hlowered.kind
    rw [addField_congr]
    exact hfields

/-- A monitor with a variable that nobody gives a value, and with two events that are raised
through the bus. -/
def unboundMonitor : Source.Monitor :=
  ⟨"Perf", [], [
    .variable ⟨"limit", none, .source "limit()", true⟩,
    .event ⟨"hot", .typed .change (.chain ["cpu", "load"]) none, none⟩,
    .event ⟨"called", .typed .invoke (.chain ["app", "run"]) none, none⟩], none⟩

/-- A world in which a queue is bound. -/
def busyWorld : World :=
  { bus := { bindings := [⟨"demo.Cpu", "cpu", "other", 0⟩], channels := [{ queue := "other" }] }
    consumers := [⟨⟨"demo.Cpu", "cpu", "other", ""⟩, .source 0, true, [0]⟩] }

/-- Both events were wired before the variable failed. -/
theorem an_unbound_variable_leaves_nothing_bound :
    ∃ b rejection w', Blueprint.ofMonitor (some "demo") {} unboundMonitor = .ok b ∧
      linkMonitor {} { b with fields := b.fields.reverse } busyWorld =
        (.error (.rejected rejection), w') ∧
      w'.consumers.length = 3 ∧ w'.bus.bindings = busyWorld.bus.bindings ∧
      w'.schedule = busyWorld.schedule ∧ w'.stores = busyWorld.stores := by
  have hcomputed : (Blueprint.ofMonitor (some "demo") {} unboundMonitor).toOption.any (fun b =>
      match linkMonitor {} { b with fields := b.fields.reverse } busyWorld with
      | (.error (.rejected _), w') => w'.consumers.length == 3
      | _ => false) = true := by decide +kernel
  obtain ⟨b, hb, hrejected⟩ := (Option.any_eq_true _ _).mp hcomputed
  have hb := toOption_eq_some_iff.mp hb
  split at hrejected
  · rename_i rejection w' hlink
    obtain ⟨hbindings, hschedule, hstores, -⟩ :=
      a_refused_monitor_leaves_nothing_bound hb b.fields.reverse {} hlink
    exact ⟨b, rejection, w', hb, hlink, by simpa using hrejected, hbindings, hschedule, hstores⟩
  · cases hrejected

end Watchtower.Linking
