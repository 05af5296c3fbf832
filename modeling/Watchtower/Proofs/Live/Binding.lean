-- Constructors. A constructor calls the method that binds namespaces and the methods of the code
-- blocks. Where no code is bound, all that it does to the world is to bind namespaces of its own
-- monitor and to record its first fault.
import Watchtower.Proofs.Live.Run
import Watchtower.Proofs.Live.Transition
import Watchtower.Proofs.Outcome

namespace Watchtower.Live

/-! ## Calm runs -/

/-- Nothing changed but the bound namespaces of a monitor and the recorded failures. -/
def World.Binds (number : Nat) (w w' : World) : Prop :=
  ∃ (bind : Monitor → Monitor) (failures : List Failure),
    (∀ m, ∃ proxies, bind m = { m with proxies }) ∧
      w' = { w with monitors := w.monitors.modify number bind, failures }

theorem World.Binds.refl (number : Nat) (w : World) : w.Binds number w := by
  refine ⟨id, w.failures, fun m => ⟨m.proxies, rfl⟩, ?_⟩
  rw [List.modify_id]

theorem World.Binds.trans {number : Nat} {w₁ w₂ w₃ : World} (h : w₁.Binds number w₂)
    (h' : w₂.Binds number w₃) : w₁.Binds number w₃ := by
  obtain ⟨bind, failures, hbind, rfl⟩ := h
  obtain ⟨bind', failures', hbind', rfl⟩ := h'
  refine ⟨bind' ∘ bind, failures', fun m => ?_, ?_⟩
  · obtain ⟨proxies, hproxies⟩ := hbind m
    obtain ⟨proxies', hproxies'⟩ := hbind' (bind m)
    refine ⟨proxies', ?_⟩
    rw [Function.comp_apply, hproxies', hproxies]
  · rw [List.modify_modify_eq]

/-- The run ends well or with a fault, and at most binds namespaces of a monitor. -/
def IsCalm {α : Type} (number : Nat) (run : Run α) (w : World) : Prop :=
  ∃ w', w.Binds number w' ∧
    ((∃ a, run w = (.ok a, w')) ∨ ∃ fault, run w = (.error (.fault fault), w'))

section Calm

variable {α β : Type} {number : Nat} {w : World}

theorem isCalm_pure (a : α) : IsCalm number (pure a) w :=
  ⟨w, .refl number w, .inl ⟨a, rfl⟩⟩

theorem isCalm_fault (fault : Fault) : IsCalm number (Run.fault fault : Run α) w :=
  ⟨w, .refl number w, .inr ⟨fault, rfl⟩⟩

/-- Of two steps, the second must be calm with each result and in each world that the first can
leave. -/
theorem IsCalm.bind {x : Run α} {f : α → Run β} (hx : IsCalm number x w)
    (hf : ∀ a w', x w = (.ok a, w') → w.Binds number w' → IsCalm number (f a) w') :
    IsCalm number (x >>= f) w := by
  obtain ⟨w₁, hbinds, ⟨a, hok⟩ | ⟨fault, herror⟩⟩ := hx
  · obtain ⟨w₂, hbinds', hrest⟩ := hf a w₁ hok hbinds
    refine ⟨w₂, hbinds.trans hbinds', ?_⟩
    rw [bind_of_ok hok]
    exact hrest
  · exact ⟨w₁, hbinds, .inr ⟨fault, bind_of_error herror⟩⟩

theorem isCalm_ask (f : World → Except Fault α) : IsCalm number (Run.ask f) w := by
  refine ⟨w, .refl number w, ?_⟩
  cases h : f w with
  | ok a => exact .inl ⟨a, Run.ask_of_ok h⟩
  | error fault => exact .inr ⟨fault, Run.ask_of_error h⟩

theorem isCalm_update {f : World → Except Fault (α × World)}
    (h : ∀ a w', f w = .ok (a, w') → w.Binds number w') : IsCalm number (Run.update f) w := by
  cases hf : f w with
  | ok result => exact ⟨result.2, h _ _ hf, .inl ⟨result.1, Run.update_of_ok hf⟩⟩
  | error fault => exact ⟨w, .refl number w, .inr ⟨fault, Run.update_of_error hf⟩⟩

/-- A guard makes a calm run end well. -/
theorem guarded_of_isCalm {run : Run α} (h : IsCalm number run w) (site : String) :
    ∃ outcome w', Run.guarded site run w = (.ok outcome, w') ∧ w.Binds number w' := by
  obtain ⟨w', hbinds, ⟨a, hok⟩ | ⟨fault, herror⟩⟩ := h
  · exact ⟨some a, w', Run.guarded_of_ok hok, hbinds⟩
  · refine ⟨none, w'.record site fault, Run.guarded_of_fault herror, ?_⟩
    obtain ⟨bind, failures, hbind, rfl⟩ := hbinds
    exact ⟨bind, _, hbind, rfl⟩

end Calm

/-! ## Statements -/

/-- The statement is user code or binds a namespace. -/
def IsMild : Stmt → Prop
  | .userCode .. | .constructProxy .. => True
  | _ => False

/-- No code is bound, and the methods of these names do nothing but to bind namespaces. -/
structure Monitor.IsPlain (m : Monitor) (calls : List String) : Prop where
  unbound : ∀ name index, m.bindings.code name index = none
  mild : ∀ name ∈ calls, ∀ method, m.method name = .ok method → ∀ stmt ∈ method.body, IsMild stmt

/-- The monitor with a number is plain, if it is there. -/
def World.IsPlainAt (w : World) (number : Nat) (calls : List String) : Prop :=
  ∀ m, w.monitors[number]? = some m → m.IsPlain calls

theorem World.IsPlainAt.binds {w w' : World} {number : Nat} {calls : List String}
    (h : w.IsPlainAt number calls) (hb : w.Binds number w') : w'.IsPlainAt number calls := by
  obtain ⟨bind, failures, hbind, rfl⟩ := hb
  intro m hm
  have hmodified : (w.monitors.modify number bind)[number]? = some m := hm
  rw [List.getElem?_modify_eq] at hmodified
  obtain ⟨old, hold, rfl⟩ := Option.map_eq_some_iff.mp hmodified
  obtain ⟨proxies, hproxies⟩ := hbind old
  rw [hproxies]
  exact ⟨(h old hold).unbound, (h old hold).mild⟩

section Statements

variable {call : List Stmt → Run Unit} {user : Body → Run Unit} {number : Nat} {w : World}
  {calls : List String}

theorem bindSpace_eq {m m' : Monitor} {name space : String} (h : m.bindSpace name space = .ok m') :
    ∃ proxies, m' = { m with proxies } := by
  unfold Monitor.bindSpace at h
  split at h
  · cases h
    exact ⟨_, rfl⟩
  · cases h

theorem isCalm_constructProxy (name space : String) :
    IsCalm number (runStmt call user number (.constructProxy name space)) w := by
  rw [runStmt]
  refine IsCalm.bind (isCalm_update ?_) fun _ _ _ _ => isCalm_pure _
  intro a w' h
  obtain ⟨m, hm, hrest⟩ := bind_eq_ok.mp h
  obtain ⟨m', hbind, hok⟩ := bind_eq_ok.mp hrest
  cases hok
  obtain ⟨proxies, rfl⟩ := bindSpace_eq hbind
  refine ⟨fun m => { m with proxies }, w.failures, fun m => ⟨proxies, rfl⟩, ?_⟩
  rw [set_eq_modify (getElem?_of_monitor hm) fun m => { m with proxies }]

theorem isCalm_userCode (hplain : w.IsPlainAt number calls) (origin : CodeOrigin) (source : String) :
    IsCalm number (runStmt call user number (.userCode origin source)) w := by
  cases origin with
  | handler name =>
    unfold runStmt
    exact isCalm_fault _
  | block index =>
    rw [runStmt]
    refine IsCalm.bind ?_ fun _ _ _ _ => isCalm_pure _
    unfold runBlock
    refine IsCalm.bind (isCalm_ask _) fun m w' hask _ => ?_
    obtain ⟨hm, rfl⟩ := Run.ask_eq_ok hask
    rw [(hplain m (getElem?_of_monitor hm)).unbound]
    exact isCalm_fault _

/-- Mild statements are calm. -/
theorem runStmts_isCalm (hplain : w.IsPlainAt number calls) {stmts : List Stmt}
    (h : ∀ stmt ∈ stmts, IsMild stmt) : IsCalm number (runStmts call user number stmts) w := by
  induction stmts generalizing w with
  | nil =>
    rw [runStmts]
    exact isCalm_pure _
  | cons stmt rest ih =>
    rw [runStmts]
    have hfirst : IsCalm number (runStmt call user number stmt) w := by
      have hmild := h stmt List.mem_cons_self
      cases stmt with
      | userCode origin source => exact isCalm_userCode hplain origin source
      | constructProxy name space => exact isCalm_constructProxy name space
      | _ => exact hmild.elim
    refine hfirst.bind fun flow w' _ hbinds => ?_
    cases flow with
    | returns => exact isCalm_pure _
    | continues => exact ih (hplain.binds hbinds) fun s hs => h s (List.mem_cons_of_mem _ hs)

/-- A call of a method with mild statements is calm. -/
theorem isCalm_callSelf {depth : Nat} {thread : String} (hplain : w.IsPlainAt number calls)
    {name : String} (hname : name ∈ calls) :
    IsCalm number (runStmt (execute (depth + 1) thread number) user number (.callSelf name)) w := by
  rw [runStmt]
  refine IsCalm.bind (isCalm_ask _) fun method w' hask _ => ?_
  obtain ⟨hfound, rfl⟩ := Run.ask_eq_ok hask
  obtain ⟨m, hm, hmethod⟩ := bind_eq_ok.mp hfound
  have hmild := (hplain m (getElem?_of_monitor hm)).mild name hname method hmethod
  refine IsCalm.bind ?_ fun _ _ _ _ => isCalm_pure _
  rw [execute]
  exact IsCalm.bind (runStmts_isCalm hplain hmild) fun _ _ _ _ => isCalm_pure _

theorem callSelfs_isCalm {depth : Nat} {thread : String} (hplain : w.IsPlainAt number calls)
    {names : List String} (hnames : ∀ name ∈ names, name ∈ calls) :
    IsCalm number (runStmts (execute (depth + 1) thread number) user number
      (names.map .callSelf)) w := by
  induction names generalizing w with
  | nil =>
    rw [List.map_nil, runStmts]
    exact isCalm_pure _
  | cons name rest ih =>
    rw [List.map_cons, runStmts]
    refine (isCalm_callSelf hplain (hnames name List.mem_cons_self)).bind fun flow w' _ hbinds => ?_
    cases flow with
    | returns => exact isCalm_pure _
    | continues =>
      exact ih (hplain.binds hbinds) fun other hother => hnames other (List.mem_cons_of_mem _ hother)

end Statements

/-- A constructor whose calls are mild ends well, and at most binds namespaces of its monitor. -/
theorem execute_constructor {number : Nat} {w : World} {calls : List String}
    (hplain : w.IsPlainAt number calls) (thread site : String) :
    ∃ w', execute callDepth thread number [.guarded site (calls.map .callSelf)] w = (.ok (), w') ∧
      w.Binds number w' := by
  have hcalm : IsCalm number (runStmts (execute 63 thread number)
      (fun body => body.run (answer (execute 63 thread)) thread) number (calls.map .callSelf)) w :=
    callSelfs_isCalm hplain fun _ hname => hname
  obtain ⟨outcome, w', hguarded, hbinds⟩ := guarded_of_isCalm hcalm site
  have hstmt : runStmt (execute 63 thread number)
      (fun body => body.run (answer (execute 63 thread)) thread) number
        (.guarded site (calls.map .callSelf)) w = (.ok .continues, w') := by
    rw [runStmt, bind_of_ok hguarded]
    rfl
  refine ⟨w', ?_, hbinds⟩
  unfold callDepth
  rw [execute, bind_of_ok (runStmts_cons_of_continues hstmt)]
  rfl

end Watchtower.Live
