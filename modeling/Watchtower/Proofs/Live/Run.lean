-- Runs taken apart: what each step of a run gives, and what it does to the world.
import Watchtower.Live.Delivery

namespace Watchtower.Live

/-! ## Steps -/

section Steps

variable {ε σ α β : Type}

/-- After a step that ends well, a run goes on with its result. -/
theorem bind_of_ok {x : ExceptT ε (StateM σ) α} {f : α → ExceptT ε (StateM σ) β} {s s' : σ} {a : α}
    (h : x s = (.ok a, s')) : (x >>= f) s = f a s' := by
  show ExceptT.bindCont f (x s).1 (x s).2 = f a s'
  rw [h]
  rfl

/-- A step that halts is the end of a run. -/
theorem bind_of_error {x : ExceptT ε (StateM σ) α} {f : α → ExceptT ε (StateM σ) β} {s s' : σ}
    {e : ε} (h : x s = (.error e, s')) : (x >>= f) s = (.error e, s') := by
  show ExceptT.bindCont f (x s).1 (x s).2 = (.error e, s')
  rw [h]
  rfl

/-- A run that ends well has a first step that does, and goes on with its result. -/
theorem ok_of_bind {x : ExceptT ε (StateM σ) α} {f : α → ExceptT ε (StateM σ) β} {s s'' : σ} {b : β}
    (h : (x >>= f) s = (.ok b, s'')) : ∃ a s', x s = (.ok a, s') ∧ f a s' = (.ok b, s'') := by
  cases hx : x s with
  | mk outcome s' =>
    cases outcome with
    | error e =>
      rw [bind_of_error hx] at h
      cases h
    | ok a =>
      rw [bind_of_ok hx] at h
      exact ⟨a, s', rfl, h⟩

theorem get_bind {f : σ → ExceptT ε (StateM σ) β} {s : σ} :
    ((get : ExceptT ε (StateM σ) σ) >>= f) s = f s s := rfl

theorem modify_bind {g : σ → σ} {f : PUnit → ExceptT ε (StateM σ) β} {s : σ} :
    ((modify g : ExceptT ε (StateM σ) PUnit) >>= f) s = f ⟨⟩ (g s) := rfl

theorem modifyGet_bind {g : σ → α × σ} {f : α → ExceptT ε (StateM σ) β} {s : σ} :
    ((modifyGet g : ExceptT ε (StateM σ) α) >>= f) s = f (g s).1 (g s).2 := rfl

theorem forM_cons_of_ok {f : α → ExceptT ε (StateM σ) PUnit} {a : α} {rest : List α} {s s' : σ}
    (h : f a s = (.ok ⟨⟩, s')) : (a :: rest).forM f s = rest.forM f s' := by
  show (f a >>= fun _ => rest.forM f) s = _
  rw [bind_of_ok h]

/-- A step that ends well needs nobody to catch what it throws. -/
theorem tryCatch_of_ok {x : ExceptT ε (StateM σ) α} {handle : ε → ExceptT ε (StateM σ) α} {s s' : σ}
    {a : α} (h : x s = (.ok a, s')) : (tryCatch x handle) s = (.ok a, s') := by
  show ExceptT.tryCatch x handle s = _
  unfold ExceptT.tryCatch ExceptT.mk
  show (match (x s).1 with
    | .ok a => (pure (.ok a) : StateM σ (Except ε α))
    | .error e => handle e) (x s).2 = _
  rw [h]
  rfl

theorem tryCatch_of_error {x : ExceptT ε (StateM σ) α} {handle : ε → ExceptT ε (StateM σ) α}
    {s s' : σ} {e : ε} (h : x s = (.error e, s')) : (tryCatch x handle) s = handle e s' := by
  show ExceptT.tryCatch x handle s = _
  unfold ExceptT.tryCatch ExceptT.mk
  show (match (x s).1 with
    | .ok a => (pure (.ok a) : StateM σ (Except ε α))
    | .error e => handle e) (x s).2 = _
  rw [h]

end Steps

namespace Run

variable {α β : Type} {w w' : World}

theorem ask_of_ok {f : World → Except Fault α} {a : α} (h : f w = .ok a) :
    Run.ask f w = (.ok a, w) := by
  show Run.ofExcept (f w) w = _
  rw [h]
  rfl

theorem ask_of_error {f : World → Except Fault α} {fault : Fault} (h : f w = .error fault) :
    Run.ask f w = (.error (.fault fault), w) := by
  show Run.ofExcept (f w) w = _
  rw [h]
  rfl

/-- Who looks at the world sees what is there. -/
theorem ask_eq_ok {f : World → Except Fault α} {a : α} (h : Run.ask f w = (.ok a, w')) :
    f w = .ok a ∧ w' = w := by
  cases hf : f w with
  | ok b =>
    rw [ask_of_ok hf] at h
    cases h
    exact ⟨rfl, rfl⟩
  | error fault =>
    rw [ask_of_error hf] at h
    cases h

theorem update_of_ok {f : World → Except Fault (α × World)} {a : α} (h : f w = .ok (a, w')) :
    Run.update f w = (.ok a, w') := by
  unfold Run.update
  rw [bind_of_ok (ask_of_ok h)]
  rfl

theorem update_of_error {f : World → Except Fault (α × World)} {fault : Fault}
    (h : f w = .error fault) : Run.update f w = (.error (.fault fault), w) := by
  unfold Run.update
  rw [bind_of_error (ask_of_error h)]

theorem attempt_of_ok {run : Run α} {a : α} (h : run w = (.ok a, w')) :
    run.attempt w = (.ok (.ok a), w') := by
  unfold Run.attempt
  exact tryCatch_of_ok ((bind_of_ok h).trans rfl)

theorem attempt_of_fault {run : Run α} {fault : Fault}
    (h : run w = (.error (.fault fault), w')) : run.attempt w = (.ok (.error fault), w') := by
  unfold Run.attempt
  rw [tryCatch_of_error (bind_of_error h)]
  rfl

/-- Nobody catches a crash. -/
theorem attempt_of_crash {run : Run α} (h : run w = (.error .crash, w')) :
    run.attempt w = (.error .crash, w') := by
  unfold Run.attempt
  rw [tryCatch_of_error (bind_of_error h)]
  rfl

/-- A guard does nothing to a run that ends well. -/
theorem guarded_of_ok {site : String} {run : Run α} {a : α} (h : run w = (.ok a, w')) :
    Run.guarded site run w = (.ok (some a), w') := by
  unfold Run.guarded
  rw [bind_of_ok (attempt_of_ok h)]
  rfl

/-- A guard records a fault at its site. -/
theorem guarded_of_fault {site : String} {run : Run α} {fault : Fault}
    (h : run w = (.error (.fault fault), w')) :
    Run.guarded site run w = (.ok none, w'.record site fault) := by
  unfold Run.guarded
  rw [bind_of_ok (attempt_of_fault h)]
  rfl

end Run

end Watchtower.Live
