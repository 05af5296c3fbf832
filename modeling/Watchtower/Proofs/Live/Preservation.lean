-- What runs preserve. A property of worlds that every single change keeps is kept by whatever user
-- code asks for and by whatever the methods of monitors do, however often they call each other.
import Watchtower.Proofs.Live.Binding

namespace Watchtower.Live

/-- The run leaves a world with the property where it begins in one, however it ends. -/
def Preserves {α : Type} (P : World → Prop) (run : Run α) : Prop := ∀ w, P w → P (run w).2

section Steps

variable {α β : Type} {P : World → Prop}

theorem preserves_pure (a : α) : Preserves P (pure a : Run α) := fun _ hw => hw

theorem preserves_throw (halt : Halt) : Preserves P (throw halt : Run α) := fun _ hw => hw

theorem Preserves.bind {x : Run α} {f : α → Run β} (hx : Preserves P x)
    (hf : ∀ a, Preserves P (f a)) : Preserves P (x >>= f) := by
  intro w hw
  have hfirst := hx w hw
  cases hrun : x w with
  | mk outcome w' =>
    rw [hrun] at hfirst
    cases outcome with
    | error halt =>
      rw [bind_of_error hrun]
      exact hfirst
    | ok a =>
      rw [bind_of_ok hrun]
      exact hf a w' hfirst

theorem preserves_modify {g : World → World} (h : ∀ w, P w → P (g w)) :
    Preserves P (modify g : Run PUnit) := h

theorem preserves_ask (f : World → Except Fault α) : Preserves P (Run.ask f) := by
  intro w hw
  cases h : f w with
  | ok a => rwa [Run.ask_of_ok h]
  | error fault => rwa [Run.ask_of_error h]

theorem preserves_update {f : World → Except Fault (α × World)}
    (h : ∀ w a w', f w = .ok (a, w') → P w → P w') : Preserves P (Run.update f) := by
  intro w hw
  cases hf : f w with
  | ok result =>
    rw [Run.update_of_ok hf]
    exact h w result.1 result.2 hf hw
  | error fault => rwa [Run.update_of_error hf]

theorem Preserves.attempt {run : Run α} (h : Preserves P run) : Preserves P run.attempt := by
  intro w hw
  have hw' := h w hw
  cases hrun : run w with
  | mk outcome w' =>
    rw [hrun] at hw'
    cases outcome with
    | ok a =>
      rw [Run.attempt_of_ok hrun]
      exact hw'
    | error halt =>
      cases halt with
      | fault f =>
        rw [Run.attempt_of_fault hrun]
        exact hw'
      | crash =>
        rw [Run.attempt_of_crash hrun]
        exact hw'

theorem Preserves.guarded {run : Run α} (h : Preserves P run) {site : String}
    (hrecord : ∀ w fault, P w → P (w.record site fault)) :
    Preserves P (Run.guarded site run) := by
  refine h.attempt.bind fun outcome => ?_
  cases outcome with
  | ok a => exact preserves_pure _
  | error fault =>
    refine Preserves.bind ?_ fun _ => preserves_pure _
    exact preserves_modify fun w => hrecord w fault

end Steps

/-! ## Single changes -/

namespace World

variable {w w' : World}

/-- Who writes a variable of a monitor changes its variables, and nothing else. -/
theorem assign_eq_ok {number : Nat} {name : String} {value previous : Json}
    (h : w.assign number name value = .ok (previous, w')) :
    ∃ m vars, w.monitors[number]? = some m ∧
      w' = { w with monitors := w.monitors.set number { m with vars } } := by
  obtain ⟨m, hm, hrest⟩ := bind_eq_ok.mp h
  obtain ⟨⟨old, m'⟩, hassign, hok⟩ := bind_eq_ok.mp hrest
  cases hok
  obtain ⟨v, -, hwrite⟩ := bind_eq_ok.mp hassign
  split at hwrite
  · cases hwrite
  · cases hwrite
    exact ⟨m, _, getElem?_of_monitor hm, rfl⟩

/-- Who subscribes a handler adds a job of a source to the schedule, or an observer to it. -/
theorem subscribe_eq_ok {number : Nat} {event handler : String}
    (h : w.subscribe number event handler = .ok w') :
    (∃ source s schedule jobs, w.sources[source]? = some s ∧
      w' = { w with schedule, sources := w.sources.set source { s with jobs } }) ∨
    ∃ source observer, w' = w.modifySource source (·.observe observer) := by
  obtain ⟨m, -, hrest⟩ := bind_eq_ok.mp h
  obtain ⟨source, -, hrest⟩ := bind_eq_ok.mp hrest
  obtain ⟨reached, -, hrest⟩ := bind_eq_ok.mp hrest
  split at hrest
  · obtain ⟨⟨id, w₁⟩, hjob, hok⟩ := bind_eq_ok.mp hrest
    cases hok
    unfold subscribeJob at hjob
    split at hjob
    · cases hjob
    · rename_i s hs
      split at hjob
      · obtain ⟨⟨id', s', schedule⟩, hscheduled, hok⟩ := bind_eq_ok.mp hjob
        cases hok
        obtain ⟨scheduled, -, hok⟩ := bind_eq_ok.mp hscheduled
        cases hok
        exact .inl ⟨source, s, _, _, hs, rfl⟩
      · cases hjob
  · cases hrest
    exact .inr ⟨source, _, rfl⟩
  · cases hrest

/-- Who writes a variable of a namespace changes its store, and publishes the change. -/
theorem set_eq_ok {node : Handle} {name : String} {value previous : Json}
    (h : w.set node name value = .ok (previous, w')) :
    ∃ bus stores, w' = { w with bus, stores } := by
  obtain ⟨qualified, -, hrest⟩ := bind_eq_ok.mp h
  obtain ⟨c, -, hwrite⟩ := bind_eq_ok.mp hrest
  obtain ⟨⟨replaced, stored⟩, hstored, hpublish⟩ := bind_eq_ok.mp hwrite
  cases hpublish
  obtain ⟨s, -, hput⟩ := bind_eq_ok.mp hstored
  obtain ⟨⟨old, s'⟩, -, hok⟩ := bind_eq_ok.mp hput
  cases hok
  exact ⟨_, _, rfl⟩

/-- Who stops a consumer unbinds its queues. -/
theorem stopConsumer_eq (w : World) (number : Nat) : w.stopConsumer number = w ∨
    ∃ c c' bus, w.consumers[number]? = some c ∧ c'.config = c.config ∧
      w.stopConsumer number = { w with bus, consumers := w.consumers.set number c' } := by
  unfold stopConsumer
  cases hc : w.consumers[number]? with
  | none => exact .inl rfl
  | some c =>
    refine .inr ⟨c, (c.stop w.bus).1, (c.stop w.bus).2, rfl, ?_, rfl⟩
    unfold Consumer.stop
    split <;> rfl

end World

/-! ## User code -/

/-- The property is kept by what user code changes without a transition: by its notes, by the
consumers that it stops, by its jobs and observers, and by the variables that it writes. -/
structure IsKeptByCode (P : World → Prop) : Prop where
  note : ∀ w thread who entry, P w → P (w.note thread who entry)
  stop : ∀ w number c c' bus, w.consumers[number]? = some c → c'.config = c.config → P w →
    P { w with bus, consumers := w.consumers.set number c' }
  schedule : ∀ w schedule, P w → P { w with schedule }
  subscribe : ∀ w source s schedule jobs, w.sources[source]? = some s → P w →
    P { w with schedule, sources := w.sources.set source { s with jobs } }
  observe : ∀ w source observer, P w → P (w.modifySource source (·.observe observer))
  assign : ∀ w number m vars, w.monitors[number]? = some m → P w →
    P { w with monitors := w.monitors.set number { m with vars } }
  publish : ∀ w bus stores, P w → P { w with bus, stores }

/-- What hangs only on something that code keeps is kept by code, too. -/
theorem IsKeptByCode.of_view {α : Type} {f : World → α}
    (hf : ∀ a, IsKeptByCode fun w => f w = a) {P : World → Prop}
    (h : ∀ w w', f w' = f w → P w → P w') : IsKeptByCode P where
  note w thread who entry := h w _ ((hf (f w)).note w thread who entry rfl)
  stop w number c c' bus hc hsame := h w _ ((hf (f w)).stop w number c c' bus hc hsame rfl)
  schedule w schedule := h w _ ((hf (f w)).schedule w schedule rfl)
  subscribe w source s schedule jobs hs :=
    h w _ ((hf (f w)).subscribe w source s schedule jobs hs rfl)
  observe w source observer := h w _ ((hf (f w)).observe w source observer rfl)
  assign w number m vars hm := h w _ ((hf (f w)).assign w number m vars hm rfl)
  publish w bus stores := h w _ ((hf (f w)).publish w bus stores rfl)

/-- Whatever it is answered, the body asks only for what is allowed. -/
inductive Body.AsksOnly (Allowed : Request → Prop) : Body → Prop where
  | done : AsksOnly Allowed .done
  | fail (fault : Fault) : AsksOnly Allowed (.fail fault)
  | crash : AsksOnly Allowed .crash
  | note (who : String) (entry : Note) {next : Body} (hnext : AsksOnly Allowed next) :
      AsksOnly Allowed (.note who entry next)
  | ask {request : Request} {next : Except Fault Json → Body} (hrequest : Allowed request)
      (hnext : ∀ outcome, AsksOnly Allowed (next outcome)) : AsksOnly Allowed (.ask request next)

theorem Body.asksOnly_of_all {Allowed : Request → Prop} (h : ∀ request, Allowed request) :
    ∀ body : Body, body.AsksOnly Allowed
  | .done => .done
  | .fail fault => .fail fault
  | .crash => .crash
  | .note who entry next => .note who entry (asksOnly_of_all h next)
  | .ask request next => .ask (h request) fun outcome => asksOnly_of_all h (next outcome)

theorem Body.AsksOnly.mono {Allowed Allowed' : Request → Prop} {body : Body}
    (h : body.AsksOnly Allowed) (himp : ∀ request, Allowed request → Allowed' request) :
    body.AsksOnly Allowed' := by
  induction h with
  | done => exact .done
  | fail fault => exact .fail fault
  | crash => exact .crash
  | note who entry hnext ih => exact .note who entry ih
  | ask hrequest hnext ih => exact .ask (himp _ hrequest) ih

/-- A body preserves what its notes and the answers to what it may ask for do. -/
theorem Body.AsksOnly.run_preserves {Allowed : Request → Prop} {body : Body}
    (hbody : body.AsksOnly Allowed) {P : World → Prop}
    (hnote : ∀ w thread who entry, P w → P (w.note thread who entry)) {answer : Request → Run Json}
    (h : ∀ request, Allowed request → Preserves P (answer request)) (thread : String) :
    Preserves P (body.run answer thread) := by
  induction hbody with
  | done => exact preserves_pure _
  | fail fault => exact preserves_throw _
  | crash => exact preserves_throw _
  | note who entry hnext ih =>
    refine Preserves.bind ?_ fun _ => ih
    exact preserves_modify fun w => hnote w thread who entry
  | ask hrequest hnext ih => exact (h _ hrequest).attempt.bind fun outcome => ih outcome

/-- A body preserves what the answers to its requests and its notes do. -/
theorem Body.run_preserves {P : World → Prop}
    (hnote : ∀ w thread who entry, P w → P (w.note thread who entry)) {answer : Request → Run Json}
    (h : ∀ request, Preserves P (answer request)) (thread : String) (body : Body) :
    Preserves P (body.run answer thread) :=
  (body.asksOnly_of_all fun _ => trivial).run_preserves hnote (fun request _ => h request) thread

/-- The answer to a request preserves what code keeps, where transitions do. -/
theorem answer_preserves {P : World → Prop} (hP : IsKeptByCode P)
    {call : Nat → List Stmt → Run Unit} (htransition : ∀ number paused,
      Preserves P (transition (call number) number (transitionTo paused))) :
    ∀ request : Request, Preserves P (answer call request)
  | .stop consumer => by
    refine Preserves.bind ?_ fun _ => preserves_pure _
    refine preserves_modify fun w hw => ?_
    rcases w.stopConsumer_eq consumer with hsame | ⟨c, c', bus, hc, hconfig, hstopped⟩
    · rwa [hsame]
    · rw [hstopped]
      exact hP.stop w consumer c c' bus hc hconfig hw
  | .unschedule job => by
    apply preserves_update
    intro w a w' h
    obtain ⟨schedule, -, hok⟩ := bind_eq_ok.mp h
    cases hok
    exact hP.schedule w schedule
  | .observe source observer => by
    refine Preserves.bind ?_ fun _ => preserves_pure _
    exact preserves_modify fun w => hP.observe w source observer
  | .recall monitor name => preserves_ask _
  | .assign monitor name value => by
    apply preserves_update
    intro w a w' h
    obtain ⟨m, vars, hm, rfl⟩ := World.assign_eq_ok h
    exact hP.assign w monitor m vars hm
  | .subscribe monitor event handler => by
    apply preserves_update
    intro w a w' h
    obtain ⟨subscribed, hsubscribe, hok⟩ := bind_eq_ok.mp h
    cases hok
    rcases World.subscribe_eq_ok hsubscribe with ⟨source, s, schedule, jobs, hs, rfl⟩ |
      ⟨source, observer, rfl⟩
    · exact hP.subscribe w source s schedule jobs hs
    · exact hP.observe w source observer
  | .reaches monitor root path => preserves_ask _
  | .get monitor root path name => preserves_ask _
  | .set monitor root path name value => by
    apply preserves_update
    intro w a w' h
    obtain ⟨reached, -, hset⟩ := bind_eq_ok.mp h
    split at hset
    · obtain ⟨bus, stores, rfl⟩ := World.set_eq_ok hset
      exact hP.publish w bus stores
    · cases hset
  | .pause monitor => (htransition monitor true).bind fun _ => preserves_pure _
  | .resume monitor => (htransition monitor false).bind fun _ => preserves_pure _

/-! ## Statements -/

/-- The property is kept by what user code and the statements of monitors change. -/
structure IsKept (P : World → Prop) : Prop extends IsKeptByCode P where
  record : ∀ w site fault, P w → P (w.record site fault)
  flag : ∀ w number m paused, w.monitors[number]? = some m → P w →
    P (w.flagMonitor number m paused)
  steer : ∀ w paused source, P w → P (w.steerSource paused source)
  bind : ∀ w number m proxies, w.monitors[number]? = some m → P w →
    P { w with monitors := w.monitors.set number { m with proxies } }

section Statements

variable {P : World → Prop} {call : List Stmt → Run Unit} {user : Body → Run Unit} (number : Nat)

theorem runBlock_preserves (huser : ∀ body, Preserves P (user body)) (index : Nat) :
    Preserves P (runBlock user number index) := by
  refine (preserves_ask _).bind fun m => ?_
  split
  · exact huser _
  · exact preserves_throw _

theorem callBase_preserves (hP : IsKept P) (method : String) :
    Preserves P (callBase number method) := by
  have hflag : ∀ paused : Bool, Preserves P (Run.update fun w => do
      let m ← w.monitor number
      return ((), { w with monitors := w.monitors.set number { m with paused } })) := by
    intro paused
    apply preserves_update
    intro w a w' h
    obtain ⟨m, hm, hok⟩ := bind_eq_ok.mp h
    cases hok
    exact hP.flag w number m paused (getElem?_of_monitor hm)
  unfold callBase
  split
  · exact hflag true
  · exact hflag false
  · exact preserves_throw _

theorem callEvent_preserves (hP : IsKept P) (event method : String) :
    Preserves P (callEvent number event method) := by
  refine (preserves_ask _).bind fun source => ?_
  split
  · exact preserves_modify fun w => hP.steer w true source
  · exact preserves_modify fun w => hP.steer w false source
  · exact preserves_throw _

theorem constructProxy_preserves (hP : IsKept P) (name space : String) :
    Preserves P (runStmt call user number (.constructProxy name space)) := by
  rw [runStmt]
  refine Preserves.bind (preserves_update ?_) fun _ => preserves_pure _
  intro w a w' h
  obtain ⟨m, hm, hrest⟩ := bind_eq_ok.mp h
  obtain ⟨m', hbind, hok⟩ := bind_eq_ok.mp hrest
  cases hok
  obtain ⟨proxies, rfl⟩ := bindSpace_eq hbind
  exact hP.bind w number m proxies (getElem?_of_monitor hm)

mutual

/-- A statement preserves what the methods and the user code do that it runs. -/
theorem runStmt_preserves (hP : IsKept P) (hcall : ∀ stmts, Preserves P (call stmts))
    (huser : ∀ body, Preserves P (user body)) :
    ∀ stmt : Stmt, Preserves P (runStmt call user number stmt)
  | .userCode (.block index) _ => by
    rw [runStmt]
    exact (runBlock_preserves number huser index).bind fun _ => preserves_pure _
  | .callSelf method => by
    rw [runStmt]
    exact (preserves_ask _).bind fun found => (hcall found.body).bind fun _ => preserves_pure _
  | .callSuper method => by
    rw [runStmt]
    exact (callBase_preserves number hP method).bind fun _ => preserves_pure _
  | .callField event method => by
    rw [runStmt]
    exact (callEvent_preserves number hP event method).bind fun _ => preserves_pure _
  | .returnIf state => by
    rw [runStmt]
    exact (preserves_ask _).bind fun m => preserves_pure _
  | .guarded site body => by
    rw [runStmt]
    exact ((runStmts_preserves hP hcall huser body).guarded fun w fault =>
      hP.record w site fault).bind fun _ => preserves_pure _
  | .constructProxy name space => constructProxy_preserves number hP name space
  | .userCode (.handler _) _ | .connectStore .. | .registerVariable .. | .openProbe _
  | .startConsumer .. | .dispatchTyped .. | .dispatchInterval _ | .getVariable _ | .setVariable _
  | .returnField _ | .returnPredicate _ | .returnConst _ => by
    unfold runStmt
    exact preserves_throw _

theorem runStmts_preserves (hP : IsKept P) (hcall : ∀ stmts, Preserves P (call stmts))
    (huser : ∀ body, Preserves P (user body)) :
    ∀ stmts : List Stmt, Preserves P (runStmts call user number stmts)
  | [] => preserves_pure _
  | stmt :: rest => by
    rw [runStmts]
    refine (runStmt_preserves hP hcall huser stmt).bind fun flow => ?_
    cases flow with
    | returns => exact preserves_pure _
    | continues => exact runStmts_preserves hP hcall huser rest

end

theorem transition_preserves (hP : IsKept P) (hcall : ∀ stmts, Preserves P (call stmts))
    (name : String) : Preserves P (transition call number name) := by
  refine (preserves_ask _).bind fun m => ?_
  refine Preserves.bind (Preserves.guarded ?_ fun w fault => hP.record w _ fault)
    fun _ => preserves_pure _
  refine Preserves.bind ?_ fun method => hcall method.body
  cases m.method name with
  | ok method => exact preserves_pure _
  | error fault => exact preserves_throw _

end Statements

/-- Whatever the statements of a monitor do, they preserve what every single change keeps. -/
theorem execute_preserves {P : World → Prop} (hP : IsKept P) (depth : Nat) (thread : String)
    (number : Nat) (stmts : List Stmt) : Preserves P (execute depth thread number stmts) := by
  -- On the depth of calls: what is called runs one level deeper, in methods as in user code.
  induction depth generalizing number stmts with
  | zero => exact preserves_throw _
  | succ depth ih =>
    rw [execute]
    refine Preserves.bind ?_ fun _ => preserves_pure _
    apply runStmts_preserves number hP (ih number)
    refine Body.run_preserves hP.note (answer_preserves hP.toIsKeptByCode ?_) thread
    exact fun other paused => transition_preserves other hP (ih other) _

end Watchtower.Live
