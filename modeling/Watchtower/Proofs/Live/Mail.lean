-- What user code leaves in the channels. A request of user code leaves the consumers and the bus
-- alone, publishes the change of a variable, or stops a consumer. So where all consumers of a wired
-- world still run after a constructor, they are as they were, and only changes wait for them.
import Watchtower.Proofs.Live.Construction

namespace Watchtower.Live

/-! ## Requests -/

/-- What a request does to the consumers and to the bus. -/
inductive World.Touches (request : Request) (w w' : World) : Prop where
  | leaves (hbus : w'.bus = w.bus) (hconsumers : w'.consumers = w.consumers)
  | publishes (exchange routingKey path : String) (previous current : Json)
      (hbus : w'.bus = (w.bus.publish exchange routingKey (.change path previous current)).2)
      (hconsumers : w'.consumers = w.consumers)
  | stops (number : Nat) (c : Consumer) (hrequest : request = .stop number)
      (hc : w.consumers[number]? = some c) (hrunning : c.isRunning = true)
      (hbus : w'.bus = w.bus.unbind c.config.queue)
      (hconsumers : w'.consumers = w.consumers.set number { c with isRunning := false })

section Requests

variable {α β : Type} {request : Request} {w : World}

theorem touches_bind_pure {run : Run α} {b : β} (h : w.Touches request (run w).2) :
    w.Touches request ((run >>= fun _ => pure b) w).2 := by
  cases hrun : run w with
  | mk outcome w' =>
    rw [hrun] at h
    cases outcome with
    | ok a => rwa [bind_of_ok hrun]
    | error halt => rwa [bind_of_error hrun]

theorem touches_ask (f : World → Except Fault α) : w.Touches request (Run.ask f w).2 :=
  have hsame := preserves_ask (P := fun w' => w' = w) f w rfl
  .leaves (congrArg World.bus hsame) (congrArg World.consumers hsame)

theorem touches_update {f : World → Except Fault (α × World)}
    (h : ∀ a w', f w = .ok (a, w') → w.Touches request w') :
    w.Touches request (Run.update f w).2 := by
  cases hf : f w with
  | ok result =>
    rw [Run.update_of_ok hf]
    exact h result.1 result.2 hf
  | error fault =>
    rw [Run.update_of_error hf]
    exact .leaves rfl rfl

theorem stopConsumer_touches (w : World) (number : Nat) :
    w.Touches (.stop number) (w.stopConsumer number) := by
  unfold World.stopConsumer
  cases hc : w.consumers[number]? with
  | none => exact .leaves rfl rfl
  | some c =>
    unfold Consumer.stop
    by_cases hrunning : c.isRunning = true
    · refine .stops number c rfl hc hrunning ?_ ?_
      · simp [hrunning]
      · simp [hrunning]
    · refine .leaves ?_ ?_
      · simp [hrunning]
      · simp [hrunning, set_of_getElem? hc]

/-- Who writes a variable of a namespace publishes its change. -/
theorem set_touches {node : Handle} {name : String} {value previous : Json} {w' : World}
    (h : w.set node name value = .ok (previous, w')) : w.Touches request w' := by
  obtain ⟨qualified, -, hrest⟩ := bind_eq_ok.mp h
  obtain ⟨c, -, hwrite⟩ := bind_eq_ok.mp hrest
  obtain ⟨⟨replaced, stored⟩, hstored, hpublish⟩ := bind_eq_ok.mp hwrite
  cases hpublish
  obtain ⟨s, -, hput⟩ := bind_eq_ok.mp hstored
  obtain ⟨⟨old, s'⟩, -, hok⟩ := bind_eq_ok.mp hput
  cases hok
  exact .publishes _ _ _ _ _ rfl rfl

/-- A transition leaves the bus alone. -/
theorem transition_touches (hw : w.IsOrderly) (depth : Nat) (thread : String) (number : Nat)
    (paused : Bool) : w.Touches request (transition (execute (depth + 1) thread number) number
      (transitionTo paused) w).2 := by
  cases hm : w.monitors[number]? with
  | none =>
    rw [transition_of_none _ hm]
    exact .leaves rfl rfl
  | some m =>
    rw [transition_steers hm (hw m (List.mem_of_getElem? hm)).1]
    obtain ⟨schedule, hsteer⟩ := steer_eq hm paused
    rw [hsteer]
    exact .leaves rfl rfl

/-- Whatever is asked for, at most one thing is published or stopped. -/
theorem answer_touches (hw : w.IsOrderly) (depth : Nat) (thread : String) (request : Request) :
    w.Touches request (answer (execute (depth + 1) thread) request w).2 := by
  match request with
  | .stop consumer => exact stopConsumer_touches w consumer
  | .unschedule job =>
    apply touches_update
    intro a w' h
    obtain ⟨schedule, -, hok⟩ := bind_eq_ok.mp h
    cases hok
    exact .leaves rfl rfl
  | .observe source observer => exact .leaves rfl rfl
  | .recall monitor name => exact touches_ask _
  | .assign monitor name value =>
    apply touches_update
    intro a w' h
    obtain ⟨m, vars, -, rfl⟩ := World.assign_eq_ok h
    exact .leaves rfl rfl
  | .subscribe monitor event handler =>
    apply touches_update
    intro a w' h
    obtain ⟨subscribed, hsubscribe, hok⟩ := bind_eq_ok.mp h
    cases hok
    rcases World.subscribe_eq_ok hsubscribe with ⟨source, s, schedule, jobs, -, rfl⟩ |
      ⟨source, observer, rfl⟩
    · exact .leaves rfl rfl
    · exact .leaves rfl rfl
  | .reaches monitor root path => exact touches_ask _
  | .get monitor root path name => exact touches_ask _
  | .set monitor root path name value =>
    apply touches_update
    intro a w' h
    obtain ⟨reached, -, hset⟩ := bind_eq_ok.mp h
    split at hset
    · exact set_touches hset
    · cases hset
  | .pause monitor => exact touches_bind_pure (transition_touches hw depth thread monitor true)
  | .resume monitor => exact touches_bind_pure (transition_touches hw depth thread monitor false)

end Requests

/-! ## Waiting changes -/

/-- Only changes of variables wait. -/
def IsChanges (mail : Nat → List Envelope) : Prop :=
  ∀ i, ∀ e ∈ mail i, ∃ path previous current, e = .deliver (.change path previous current)

/-- The consumers are as they were, and changes of variables may wait for them. -/
def World.Awaits (w w' : World) : Prop :=
  w'.consumers = w.consumers ∧ ∃ mail, IsChanges mail ∧ w'.bus = w.bus.holding mail

section Waiting

variable {w w₁ w₂ : World}

/-- What is touched while all consumers run holds one change more, if anything. -/
theorem World.Awaits.touches (h : (∀ c ∈ w₁.consumers, c.isRunning = true) → w.Awaits w₁)
    (hw : w.IsWired) {request : Request} (htouches : w₁.Touches request w₂) :
    (∀ c ∈ w₂.consumers, c.isRunning = true) → w.Awaits w₂ := by
  intro hrunning
  cases htouches with
  | stops number c hrequest hc hwas hbus hconsumers =>
    have hlt : number < w₁.consumers.length := (List.getElem?_eq_some_iff.mp hc).1
    have hstopped : { c with isRunning := false } ∈ w₂.consumers := by
      rw [hconsumers]
      exact List.mem_set hlt _
    cases hrunning _ hstopped
  | leaves hbus hconsumers =>
    obtain ⟨hsame, mail, hmail, hheld⟩ := h (hconsumers ▸ hrunning)
    exact ⟨hconsumers.trans hsame, mail, hmail, hbus.trans hheld⟩
  | publishes exchange routingKey path previous current hbus hconsumers =>
    obtain ⟨hsame, mail, hmail, hheld⟩ := h (hconsumers ▸ hrunning)
    rw [hheld, World.publish_holding hw] at hbus
    refine ⟨hconsumers.trans hsame, _, ?_, hbus⟩
    intro i e he
    rcases List.mem_append.mp he with hold | hnew
    · exact hmail i e hold
    · split at hnew
      · exact ⟨path, previous, current, List.mem_singleton.mp hnew⟩
      · cases hnew

end Waiting

end Watchtower.Live
