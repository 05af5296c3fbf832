-- Outcomes of computations that can fail, taken apart step by step.

namespace Watchtower

variable {ε α β : Type}

/-- Two steps succeed together when the first does, and the second does with its result. -/
theorem bind_eq_ok {x : Except ε α} {f : α → Except ε β} {b : β} :
    x >>= f = .ok b ↔ ∃ a, x = .ok a ∧ f a = .ok b := by
  cases x with
  | error e => simp [bind, Except.bind]
  | ok a => simp [bind, Except.bind]

/-- Two steps fail when the first does, or when the second does with the result of the first. -/
theorem bind_eq_error {x : Except ε α} {f : α → Except ε β} {e : ε} :
    x >>= f = .error e ↔ x = .error e ∨ ∃ a, x = .ok a ∧ f a = .error e := by
  cases x with
  | error e => simp [bind, Except.bind]
  | ok a => simp [bind, Except.bind]

theorem toOption_eq_some_iff {x : Except ε α} {a : α} : x.toOption = some a ↔ x = .ok a := by
  cases x with
  | error e => simp [Except.toOption]
  | ok b => simp [Except.toOption]

/-- A pair is known by its second part where its first is a success. -/
theorem eq_of_fst_toOption {σ : Type} {x : Except ε α × σ} {a : α} (h : x.1.toOption = some a) :
    x = (.ok a, x.2) :=
  Prod.ext (toOption_eq_some_iff.mp h) rfl

/-- A pass over items succeeds when it does at each item. -/
theorem forM_eq_ok {f : α → Except ε Unit} {items : List α} :
    items.forM f = .ok () ↔ ∀ a ∈ items, f a = .ok () := by
  induction items with
  | nil => simp [pure, Except.pure]
  | cons a rest ih =>
    have hcons : (a :: rest).forM f = f a >>= fun _ => rest.forM f := List.forM_cons
    rw [hcons, bind_eq_ok, ih]
    constructor
    · rintro ⟨⟨⟩, hfirst, hrest⟩
      exact List.forall_mem_cons.mpr ⟨hfirst, hrest⟩
    · intro h
      obtain ⟨hfirst, hrest⟩ := List.forall_mem_cons.mp h
      exact ⟨(), hfirst, hrest⟩

/-! ## Success -/

/-- The computation gives a result. -/
def Succeeds (x : Except ε α) : Prop := ∃ a, x = .ok a

@[simp] theorem succeeds_ok (a : α) : Succeeds (.ok a : Except ε α) := ⟨a, rfl⟩

@[simp] theorem succeeds_pure (a : α) : Succeeds (pure a : Except ε α) := ⟨a, rfl⟩

@[simp] theorem not_succeeds_error (e : ε) : ¬ Succeeds (.error e : Except ε α) := by
  rintro ⟨a, h⟩
  cases h

theorem isOk_iff_succeeds {x : Except ε α} : x.isOk = true ↔ Succeeds x := by
  cases x with
  | error e => simp [Except.isOk, Except.toBool]
  | ok a => simp [Except.isOk, Except.toBool]

/-- Where the success of the second step does not hang on the result of the first, two steps
succeed together when each of them does. -/
theorem succeeds_bind {x : Except ε α} {f : α → Except ε β} {P : Prop}
    (h : ∀ a, Succeeds (f a) ↔ P) : Succeeds (x >>= f) ↔ Succeeds x ∧ P := by
  cases x with
  | error e =>
    have hleft : ¬ Succeeds (.error e >>= f) := not_succeeds_error e
    simp [hleft]
  | ok a =>
    have hleft : Succeeds (.ok a >>= f) ↔ P := h a
    simp [hleft]

/-- Two steps succeed together when the first does and the second always does. -/
theorem Succeeds.bind {x : Except ε α} {f : α → Except ε β} (hx : Succeeds x)
    (hf : ∀ a, Succeeds (f a)) : Succeeds (x >>= f) := by
  obtain ⟨a, rfl⟩ := hx
  exact hf a

/-- A step with a pure end succeeds when the step does. -/
theorem succeeds_bind_pure {x : Except ε α} {f : α → β} :
    Succeeds (x >>= fun a => pure (f a)) ↔ Succeeds x := by
  rw [succeeds_bind (P := True) (by simp)]
  simp

/-- A traversal succeeds when it does at each item. -/
theorem succeeds_mapM {f : α → Except ε β} {items : List α} :
    Succeeds (items.mapM f) ↔ ∀ a ∈ items, Succeeds (f a) := by
  induction items with
  | nil => simp
  | cons a rest ih =>
    rw [List.mapM_cons, succeeds_bind (P := Succeeds (rest.mapM f)), ih]
    · simp
    · intro b
      exact succeeds_bind_pure

/-- A traversal that fails does so at the first item that fails. -/
theorem mapM_eq_error {f : α → Except ε β} {items : List α} {e : ε}
    (h : items.mapM f = .error e) : ∃ before a after, items = before ++ a :: after ∧
      (∀ b ∈ before, Succeeds (f b)) ∧ f a = .error e := by
  induction items with
  | nil => cases h
  | cons a rest ih =>
    rw [List.mapM_cons, bind_eq_error] at h
    rcases h with hfirst | ⟨b, hfirst, hlater⟩
    · exact ⟨[], a, rest, rfl, List.forall_mem_nil _, hfirst⟩
    · rcases bind_eq_error.mp hlater with hrest | ⟨others, -, hpure⟩
      · obtain ⟨before, failing, after, rfl, hbefore, hfailing⟩ := ih hrest
        exact ⟨a :: before, failing, after, rfl,
          List.forall_mem_cons.mpr ⟨⟨b, hfirst⟩, hbefore⟩, hfailing⟩
      · cases hpure

/-- The results of a traversal are those at its items. -/
theorem mem_iff_of_mapM_eq_ok {f : α → Except ε β} {items : List α} {results : List β} {b : β}
    (h : items.mapM f = .ok results) : b ∈ results ↔ ∃ a ∈ items, f a = .ok b := by
  induction items generalizing results with
  | nil =>
    cases h
    simp
  | cons a rest ih =>
    rw [List.mapM_cons] at h
    obtain ⟨first, hfirst, hrest⟩ := bind_eq_ok.mp h
    obtain ⟨others, hothers, hok⟩ := bind_eq_ok.mp hrest
    cases hok
    simp only [List.mem_cons, ih hothers, exists_eq_or_imp, hfirst, Except.ok.injEq]
    rw [eq_comm]

end Watchtower
