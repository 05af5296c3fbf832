-- Constructors taken apart. A constructor binds the namespaces that its monitor uses, up to the
-- first that is not there. Then it runs the code blocks in their order, each once, up to the first
-- that is not bound or that halts.
import Mathlib.Data.List.TakeWhile
import Watchtower.Proofs.Blueprint.Code
import Watchtower.Proofs.Live.Orderly

namespace Watchtower.Live

/-! ## Namespaces -/

/-- A namespace of this name is in the registry. -/
def isThere (registry : List (String × Handle)) (name : String) : Bool :=
  (registry.lookup name).isSome

/-- Namespaces of a registry bound under their names, up to the first that is not there. -/
def bindSpaces (registry : List (String × Handle)) :
    List String → List (String × Handle) → List (String × Handle)
  | [], proxies => proxies
  | name :: rest, proxies =>
    match registry.lookup name with
    | some handle => bindSpaces registry rest (Sorted.insert name handle proxies)
    | none => proxies

theorem bindSpaces_cons_of_some {registry : List (String × Handle)} {name : String}
    {handle : Handle} (h : registry.lookup name = some handle) (rest : List String)
    (proxies : List (String × Handle)) : bindSpaces registry (name :: rest) proxies =
      bindSpaces registry rest (Sorted.insert name handle proxies) := by
  rw [bindSpaces, h]

theorem bindSpaces_cons_of_none {registry : List (String × Handle)} {name : String}
    (h : registry.lookup name = none) (rest : List String) (proxies : List (String × Handle)) :
    bindSpaces registry (name :: rest) proxies = proxies := by
  rw [bindSpaces, h]

/-- Just the namespaces before the first that is not there are bound, each to its own node. -/
theorem lookup_bindSpaces (registry : List (String × Handle)) (usings : List String)
    (proxies : List (String × Handle)) (name : String) :
    (bindSpaces registry usings proxies).lookup name =
      if name ∈ usings.takeWhile (isThere registry) then registry.lookup name
      else proxies.lookup name := by
  induction usings generalizing proxies with
  | nil => simp [bindSpaces]
  | cons first rest ih =>
    cases hfirst : registry.lookup first with
    | none =>
      have hnot : isThere registry first = false := by
        simp [isThere, hfirst]
      rw [bindSpaces_cons_of_none hfirst, List.takeWhile_cons]
      simp [hnot]
    | some handle =>
      have hthere : isThere registry first = true := by
        simp [isThere, hfirst]
      rw [bindSpaces_cons_of_some hfirst, ih, List.takeWhile_cons, if_pos hthere]
      by_cases hrest : name ∈ rest.takeWhile (isThere registry)
      · rw [if_pos hrest, if_pos (List.mem_cons_of_mem _ hrest)]
      · rw [if_neg hrest]
        by_cases hsame : name = first
        · subst hsame
          rw [if_pos List.mem_cons_self, Sorted.lookup_insert_self, hfirst]
        · have hnone : name ∉ first :: rest.takeWhile (isThere registry) := by
            simp only [List.mem_cons, not_or]
            exact ⟨hsame, hrest⟩
          rw [if_neg hnone, Sorted.lookup_insert_of_ne _ _ hsame]

/-- The world in which a monitor has namespaces bound. -/
def World.bindAt (w : World) (number : Nat) (m : Monitor) (proxies : List (String × Handle)) :
    World :=
  { w with monitors := w.monitors.set number { m with proxies } }

theorem World.monitor_bindAt {w : World} {number : Nat} {m : Monitor}
    (h : w.monitors[number]? = some m) (proxies : List (String × Handle)) :
    (w.bindAt number m proxies).monitors[number]? = some { m with proxies } := by
  have hlt : number < w.monitors.length := (List.getElem?_eq_some_iff.mp h).1
  simp [World.bindAt, hlt]

/-- Bound namespaces leave whatever else the monitors have. -/
theorem World.of_monitor_bindAt {w : World} {number : Nat} {m : Monitor}
    (h : w.monitors[number]? = some m) {proxies : List (String × Handle)} {i : Nat} {m' : Monitor}
    (hm' : (w.bindAt number m proxies).monitors[i]? = some m') :
    ∃ m₀, w.monitors[i]? = some m₀ ∧ m' = { m₀ with proxies := m'.proxies } := by
  have hset : (w.monitors.set number { m with proxies })[i]? = some m' := hm'
  rw [List.getElem?_set] at hset
  split at hset
  · rename_i hsame
    subst hsame
    split at hset
    · cases hset
      exact ⟨m, h, rfl⟩
    · cases hset
  · exact ⟨m', hset, rfl⟩

theorem World.IsOrderly.bindAt {w : World} (hw : w.IsOrderly) {number : Nat} {m : Monitor}
    (h : w.monitors[number]? = some m) (proxies : List (String × Handle)) :
    (w.bindAt number m proxies).IsOrderly := by
  intro m' hm'
  obtain ⟨i, hi⟩ := List.mem_iff_getElem?.mp hm'
  obtain ⟨m₀, hm₀, hsame⟩ := World.of_monitor_bindAt h hi
  obtain ⟨hsteered, hsources⟩ := hw m₀ (List.mem_of_getElem? hm₀)
  rw [hsame]
  exact ⟨hsteered.congr rfl rfl, hsources⟩

theorem World.IsApart.bindAt {w : World} {number : Nat} (hw : w.IsApart number) {m : Monitor}
    (h : w.monitors[number]? = some m) (proxies : List (String × Handle)) :
    (w.bindAt number m proxies).IsApart number := by
  intro m₁ other m₂ hm₁ hm₂ hne
  obtain ⟨m₁', hm₁', hsame₁⟩ := World.of_monitor_bindAt h hm₁
  obtain ⟨m₂', hm₂', hsame₂⟩ := World.of_monitor_bindAt h hm₂
  rw [hsame₁, hsame₂]
  exact hw m₁' other m₂' hm₁' hm₂' hne

theorem World.InStep.bindAt {w : World} {number : Nat} (hw : w.InStep number) {m : Monitor}
    (h : w.monitors[number]? = some m) (proxies : List (String × Handle)) :
    (w.bindAt number m proxies).InStep number := by
  intro m₁ hm₁
  obtain ⟨m₁', hm₁', hsame₁⟩ := World.of_monitor_bindAt h hm₁
  rw [hsame₁]
  exact hw m₁' hm₁'

section Spaces

variable {call : List Stmt → Run Unit} {user : Body → Run Unit} {number : Nat} {w : World}
  {m : Monitor}

theorem constructProxy_of_some (h : w.monitors[number]? = some m) {name : String} {handle : Handle}
    (hname : m.registry.lookup name = some handle) :
    runStmt call user number (.constructProxy name name) w =
      (.ok .continues, w.bindAt number m (Sorted.insert name handle m.proxies)) := by
  have hbind : m.bindSpace name name =
      .ok { m with proxies := Sorted.insert name handle m.proxies } := by
    unfold Monitor.bindSpace
    rw [hname]
  rw [runStmt]
  refine (bind_of_ok (a := ()) (Run.update_of_ok ?_)).trans rfl
  rw [monitor_eq_ok h]
  show (m.bindSpace name name >>= fun m' => _) = _
  rw [hbind]
  rfl

theorem constructProxy_of_none (h : w.monitors[number]? = some m) {name : String}
    (hname : m.registry.lookup name = none) :
    runStmt call user number (.constructProxy name name) w =
      (.error (.fault (.unknownMember "namespace" name)), w) := by
  have hbind : m.bindSpace name name = .error (.unknownMember "namespace" name) := by
    unfold Monitor.bindSpace
    rw [hname]
  rw [runStmt]
  refine bind_of_error (Run.update_of_error ?_)
  rw [monitor_eq_ok h]
  show (m.bindSpace name name >>= fun m' => _) = _
  rw [hbind]
  rfl

/-- The method that binds namespaces ends well when all of them are there, and else with the fault
of the first that is not. -/
theorem bindMethod_run (call : List Stmt → Run Unit) (user : Body → Run Unit)
    (h : w.monitors[number]? = some m) (usings : List String) :
    runStmts call user number (bindMethod usings).body w =
      ((match usings.find? (!isThere m.registry ·) with
        | none => .ok .continues
        | some space => .error (.fault (.unknownMember "namespace" space))),
        w.bindAt number m (bindSpaces m.registry usings m.proxies)) := by
  induction usings generalizing w m with
  | nil =>
    have hself : w.bindAt number m m.proxies = w := by
      unfold World.bindAt
      rw [set_of_getElem? h]
    show (_, w) = (_, w.bindAt number m m.proxies)
    rw [hself]
    rfl
  | cons name rest ih =>
    show runStmts call user number (.constructProxy name name :: (bindMethod rest).body) w = _
    cases hname : m.registry.lookup name with
    | none =>
      have hself : w.bindAt number m m.proxies = w := by
        unfold World.bindAt
        rw [set_of_getElem? h]
      have hmissing : (name :: rest).find? (!isThere m.registry ·) = some name := by
        simp [isThere, hname]
      rw [runStmts, bind_of_error (constructProxy_of_none h hname), hmissing,
        bindSpaces_cons_of_none hname, hself]
    | some handle =>
      have hthere : (name :: rest).find? (!isThere m.registry ·) =
          rest.find? (!isThere m.registry ·) := by
        simp [isThere, hname]
      rw [runStmts_cons_of_continues (constructProxy_of_some h hname),
        ih (World.monitor_bindAt h _), hthere, bindSpaces_cons_of_some hname]
      simp [World.bindAt]

end Spaces

/-! ## Code blocks -/

/-- How code blocks run one after the other: each begins in a world of which `Begins` holds, and a
block that is not bound or that halts is the last. -/
inductive CodeRuns (code : Nat → Option (Nat → Body)) (name : String) (number : Nat)
    (thread : String) (Begins : World → Prop) :
    List Nat → World → Except Halt Unit → World → Prop where
  | done (w : World) : CodeRuns code name number thread Begins [] w (.ok ()) w
  | unbound {i : Nat} (rest : List Nat) (w : World) (hcode : code i = none) :
      CodeRuns code name number thread Begins (i :: rest) w
        (.error (.fault (.unbound (name ++ ".code_" ++ toString i)))) w
  | halts {i : Nat} (rest : List Nat) {body : Nat → Body} {halt : Halt} {w w' : World}
      (hcode : code i = some body) (hbegins : Begins w)
      (hrun : (body number).perform thread w = (.error halt, w')) :
      CodeRuns code name number thread Begins (i :: rest) w (.error halt) w'
  | next {i : Nat} {rest : List Nat} {body : Nat → Body} {outcome : Except Halt Unit}
      {w w₁ w₂ : World} (hcode : code i = some body) (hbegins : Begins w)
      (hrun : (body number).perform thread w = (.ok (), w₁))
      (hrest : CodeRuns code name number thread Begins rest w₁ outcome w₂) :
      CodeRuns code name number thread Begins (i :: rest) w outcome w₂

/-- Code blocks preserve what single changes and transitions keep. -/
theorem CodeRuns.preserves {code : Nat → Option (Nat → Body)} {name : String} {number : Nat}
    {thread : String} {Begins : World → Prop} {indexes : List Nat} {w w' : World}
    {outcome : Except Halt Unit}
    (h : CodeRuns code name number thread Begins indexes w outcome w') {P : World → Prop}
    (hP : IsKeptBySteering P) (hw : P w) : P w' := by
  induction h with
  | done w => exact hw
  | unbound rest w hcode => exact hw
  | halts rest hcode hbegins hrun => exact Body.perform_preserves thread hP hrun hw
  | next hcode hbegins hrun hrest ih => exact ih (Body.perform_preserves thread hP hrun hw)

section Code

variable {depth : Nat} {thread : String} {user : Body → Run Unit} {number : Nat} {w : World}
  {m : Monitor}

/-- A call of a method runs its body one level deeper. -/
theorem callSelf_eq (h : w.monitors[number]? = some m) {name : String} {method : Method}
    (hmethod : m.method name = .ok method) :
    runStmt (execute (depth + 1) thread number) user number (.callSelf name) w =
      (runStmts (execute depth thread number)
        (fun body => body.run (answer (execute depth thread)) thread) number method.body >>=
          fun _ => pure .continues) w := by
  have hask : Run.ask (fun w => do (← w.monitor number).method name) w = (.ok method, w) := by
    apply Run.ask_of_ok
    rw [monitor_eq_ok h]
    exact hmethod
  rw [runStmt, bind_of_ok hask, execute]
  cases hrun : runStmts (execute depth thread number)
      (fun body => body.run (answer (execute depth thread)) thread) number method.body w with
  | mk outcome w' =>
    cases outcome with
    | ok flow =>
      rw [bind_of_ok hrun, bind_of_ok ((bind_of_ok hrun).trans rfl)]
    | error halt =>
      rw [bind_of_error hrun, bind_of_error (bind_of_error hrun)]

/-- The method of the monitor is that of a code block. -/
def Monitor.HasCode (m : Monitor) (i : Nat) : Prop :=
  ∃ source, m.method (codeName i) =
    .ok { name := codeName i, propagates := true, body := [.userCode (.block i) source] }

/-- The call of a code block that is not bound ends with that fault. -/
theorem callCode_of_none (h : w.monitors[number]? = some m) {i : Nat} (hi : m.HasCode i)
    (hcode : m.bindings.code m.qualifiedName i = none) :
    runStmt (execute (depth + 1) thread number) user number (.callSelf (codeName i)) w =
      (.error (.fault (.unbound (m.qualifiedName ++ ".code_" ++ toString i))), w) := by
  obtain ⟨source, hmethod⟩ := hi
  rw [callSelf_eq h hmethod]
  apply bind_of_error
  rw [runStmts, runStmt]
  apply bind_of_error
  apply bind_of_error
  unfold runBlock
  rw [bind_of_ok (Run.ask_of_ok (monitor_eq_ok h)), hcode]
  rfl

/-- The call of a code block runs its body. -/
theorem callCode_of_some (h : w.monitors[number]? = some m) (hw : w.IsOrderly) {i : Nat}
    (hi : m.HasCode i) {body : Nat → Body} (hcode : m.bindings.code m.qualifiedName i = some body)
    {outcome : Except Halt Unit} {w' : World}
    (hrun : (body number).perform thread w = (outcome, w')) :
    runStmt (execute (depth + 2) thread number) user number (.callSelf (codeName i)) w =
      (outcome.map fun _ => .continues, w') := by
  obtain ⟨source, hmethod⟩ := hi
  have hblock : runBlock (fun body => body.run (answer (execute (depth + 1) thread)) thread) number
      i w = (outcome, w') := by
    unfold runBlock
    rw [bind_of_ok (Run.ask_of_ok (monitor_eq_ok h)), hcode]
    exact (Body.run_eq_perform depth thread hw (body number)).trans hrun
  rw [callSelf_eq h hmethod]
  cases outcome with
  | error halt =>
    apply bind_of_error
    rw [runStmts, runStmt]
    exact bind_of_error (bind_of_error hblock)
  | ok value =>
    have hstmt : runStmt (execute (depth + 1) thread number)
        (fun body => body.run (answer (execute (depth + 1) thread)) thread) number
          (.userCode (.block i) source) w = (.ok .continues, w') := by
      rw [runStmt, bind_of_ok hblock]
      rfl
    exact (bind_of_ok (runStmts_cons_of_continues hstmt)).trans rfl

/-- Calls of code blocks run them one after the other. -/
theorem callCodes_run (depth : Nat) (user : Body → Run Unit) (h : w.monitors[number]? = some m)
    (hw : w.IsOrderly) {Begins : World → Prop} (hbegins : ∀ w', w.Follows w' → Begins w')
    {indexes : List Nat} (hcodes : ∀ i ∈ indexes, m.HasCode i) :
    ∃ outcome w', CodeRuns (m.bindings.code m.qualifiedName) m.qualifiedName number thread Begins
        indexes w outcome w' ∧
      runStmts (execute (depth + 2) thread number) user number
        ((indexes.map codeName).map .callSelf) w = (outcome.map fun _ => .continues, w') := by
  induction indexes generalizing w m with
  | nil => exact ⟨.ok (), w, .done w, rfl⟩
  | cons i rest ih =>
    rw [List.map_cons, List.map_cons, runStmts]
    cases hcode : m.bindings.code m.qualifiedName i with
    | none =>
      refine ⟨_, w, .unbound rest w hcode, ?_⟩
      exact bind_of_error (callCode_of_none h (hcodes i List.mem_cons_self) hcode)
    | some body =>
      cases hrun : (body number).perform thread w with
      | mk outcome w₁ =>
        have hcall : runStmt (execute (depth + 2) thread number) user number
            (.callSelf (codeName i)) w = (outcome.map fun _ => .continues, w₁) :=
          callCode_of_some h hw (hcodes i List.mem_cons_self) hcode hrun
        cases outcome with
        | error halt =>
          exact ⟨_, w₁, .halts rest hcode (hbegins w (.refl w)) hrun, bind_of_error hcall⟩
        | ok value =>
          have hfollows : w.Follows w₁ :=
            Body.perform_preserves thread (isKeptBySteering_follows hw) hrun (.refl w)
          obtain ⟨m₁, hm₁, hfixed⟩ := hfollows.monitor h
          have hsame := Monitor.eq_of_fixed hfixed
          obtain ⟨outcome, w', hruns, hrest⟩ := ih hm₁ (hw.follows hfollows)
            (fun w' hw' => hbegins w' (hfollows.trans hw')) (by
              intro j hj
              rw [hsame]
              exact hcodes j (List.mem_cons_of_mem _ hj))
          refine ⟨outcome, w', .next hcode (hbegins w (.refl w)) hrun ?_,
            (bind_of_ok hcall).trans hrest⟩
          rw [hsame] at hruns
          exact hruns

end Code

/-! ## Constructors -/

/-- The namespaces that a monitor uses are bound in it. -/
def World.Sees (w : World) (number : Nat) (registry : List (String × Handle))
    (usings : List String) : Prop :=
  ∃ m, w.monitors[number]? = some m ∧ ∀ space ∈ usings, ∃ handle,
    registry.lookup space = some handle ∧ m.space space = .ok handle

theorem World.Sees.follows {w w' : World} {number : Nat} {registry : List (String × Handle)}
    {usings : List String} (h : w.Sees number registry usings) (hf : w.Follows w') :
    w'.Sees number registry usings := by
  obtain ⟨m, hm, hspaces⟩ := h
  obtain ⟨m', hm', hfixed⟩ := hf.monitor hm
  refine ⟨m', hm', ?_⟩
  rw [Monitor.eq_of_fixed hfixed]
  exact hspaces

/-- How a constructor goes: what it uses is bound up to the first namespace that is not there, with
which it ends. Where all are there it goes on with the code blocks, from the first to the last,
each of which sees all namespaces bound. -/
inductive Constructs (code : Nat → Option (Nat → Body)) (name : String) (number : Nat)
    (thread : String) (registry : List (String × Handle)) (usings : List String) (blocks : Nat) :
    World → Except Halt Unit → World → Prop where
  | lacks {m : Monitor} {proxies : List (String × Handle)} {space : String} {w : World}
      (hm : w.monitors[number]? = some m)
      (hspace : usings.find? (!isThere registry ·) = some space)
      (hbound : ∀ name, proxies.lookup name =
        if name ∈ usings.takeWhile (isThere registry) then registry.lookup name else none) :
      Constructs code name number thread registry usings blocks w
        (.error (.fault (.unknownMember "namespace" space))) (w.bindAt number m proxies)
  | runs {m : Monitor} {proxies : List (String × Handle)} {outcome : Except Halt Unit}
      {w w' : World} (hm : w.monitors[number]? = some m)
      (hthere : ∀ space ∈ usings, isThere registry space = true)
      (hbound : ∀ name, proxies.lookup name =
        if name ∈ usings then registry.lookup name else none)
      (hruns : CodeRuns code name number thread (·.Sees number registry usings) (List.range blocks)
        (w.bindAt number m proxies) outcome w') :
      Constructs code name number thread registry usings blocks w outcome w'

/-- A constructor leaves what user code leaves, once the namespaces are bound. -/
theorem Constructs.preserves {code : Nat → Option (Nat → Body)} {name : String} {number : Nat}
    {thread : String} {registry : List (String × Handle)} {usings : List String} {blocks : Nat}
    {w w' : World} {outcome : Except Halt Unit}
    (h : Constructs code name number thread registry usings blocks w outcome w') :
    ∃ m proxies, w.monitors[number]? = some m ∧ ∀ P : World → Prop, IsKeptBySteering P →
      P (w.bindAt number m proxies) → P w' := by
  cases h with
  | lacks hm hspace hbound => exact ⟨_, _, hm, fun P hP hw => hw⟩
  | runs hm hthere hbound hruns => exact ⟨_, _, hm, fun P hP hw => hruns.preserves hP hw⟩

/-- A constructor records no failure by itself. It changes nothing of its monitor that does not
change by user code, but for the namespaces, and it keeps the sources of the monitor in step. -/
theorem Constructs.follows {code : Nat → Option (Nat → Body)} {name : String} {number : Nat}
    {thread : String} {registry : List (String × Handle)} {usings : List String} {blocks : Nat}
    {w w' : World} {outcome : Except Halt Unit}
    (h : Constructs code name number thread registry usings blocks w outcome w')
    (hw : w.IsOrderly) {m : Monitor} (hm : w.monitors[number]? = some m) :
    ∃ proxies, (w.bindAt number m proxies).Follows w' ∧
      (w.IsApart number → w.InStep number → w'.InStep number) := by
  obtain ⟨m', proxies, hm', hkept⟩ := h.preserves
  cases hm.symm.trans hm'
  have hbound := hw.bindAt hm proxies
  refine ⟨proxies, hkept _ (isKeptBySteering_follows hbound) (.refl _), fun hapart hstep => ?_⟩
  exact (hkept _ (isKeptBySteering_inStep hbound (hapart.bindAt hm proxies))
    ⟨.refl _, hstep.bindAt hm proxies⟩).2

/-- A guard at a site concludes a run: its fault is recorded there, and a crash goes on. -/
def concluded (site : String) (outcome : Except Halt Unit) (w : World) : Except Halt Unit × World :=
  match outcome with
  | .ok () => (.ok (), w)
  | .error (.fault fault) => (.ok (), w.record site fault)
  | .error .crash => (.error .crash, w)

/-- A monitor as it is before its constructor: nothing is bound, and the methods that the
constructor calls are there. -/
structure Monitor.IsBegun (m : Monitor) (usings : List String) (blocks : Nat) : Prop where
  unbound : m.proxies = []
  binds : m.method initializeMethod = .ok (bindMethod usings)
  codes : ∀ i < blocks, m.HasCode i

section Constructors

variable {thread : String} {number : Nat} {w : World} {m : Monitor} {usings : List String}
  {blocks : Nat}

/-- The calls of a constructor run as they should. -/
theorem constructor_calls (depth : Nat) (thread : String) (user : Body → Run Unit)
    (h : w.monitors[number]? = some m) (hw : w.IsOrderly) (hm : m.IsBegun usings blocks) :
    ∃ outcome w', Constructs (m.bindings.code m.qualifiedName) m.qualifiedName number thread
        m.registry usings blocks w outcome w' ∧
      runStmts (execute (depth + 2) thread number) user number
        (.callSelf initializeMethod :: ((List.range blocks).map codeName).map .callSelf) w =
          (outcome.map fun _ => .continues, w') := by
  have hbinding : runStmt (execute (depth + 2) thread number) user number
      (.callSelf initializeMethod) w =
        ((match usings.find? (!isThere m.registry ·) with
          | none => .ok .continues
          | some space => .error (.fault (.unknownMember "namespace" space))),
          w.bindAt number m (bindSpaces m.registry usings [])) := by
    have hbinds := bindMethod_run (execute (depth + 1) thread number)
      (fun body => body.run (answer (execute (depth + 1) thread)) thread) h usings
    rw [hm.unbound] at hbinds
    rw [callSelf_eq h hm.binds]
    cases hfind : usings.find? (!isThere m.registry ·) with
    | none =>
      rw [hfind] at hbinds
      exact (bind_of_ok hbinds).trans rfl
    | some space =>
      rw [hfind] at hbinds
      exact bind_of_error hbinds
  have hlookup := lookup_bindSpaces m.registry usings []
  rw [runStmts]
  cases hfind : usings.find? (!isThere m.registry ·) with
  | some space =>
    rw [hfind] at hbinding
    exact ⟨_, _, .lacks h hfind hlookup, bind_of_error hbinding⟩
  | none =>
    rw [hfind] at hbinding
    have hthere : ∀ space ∈ usings, isThere m.registry space = true := by
      simpa using List.find?_eq_none.mp hfind
    have hall : usings.takeWhile (isThere m.registry) = usings :=
      List.takeWhile_eq_self_iff.mpr hthere
    rw [hall] at hlookup
    have hbound := World.monitor_bindAt h (bindSpaces m.registry usings [])
    have hsees : (w.bindAt number m (bindSpaces m.registry usings [])).Sees number m.registry
        usings := by
      refine ⟨_, hbound, fun space hspace => ?_⟩
      obtain ⟨handle, hhandle⟩ := Option.isSome_iff_exists.mp (hthere space hspace)
      refine ⟨handle, hhandle, ?_⟩
      unfold Monitor.space
      simp only [hlookup, if_pos hspace, hhandle]
    obtain ⟨outcome, w', hruns, hcalls⟩ := callCodes_run depth user hbound
      (hw.bindAt h _) (fun w' hf => hsees.follows hf)
      (fun i hi => hm.codes i (List.mem_range.mp hi))
    exact ⟨outcome, w', .runs h hthere hlookup hruns, (bind_of_ok hbinding).trans hcalls⟩

/-- A run under a guard ends as the guard concludes it. -/
theorem guarded_run {site : String} {run : Run Flow} {outcome : Except Halt Unit} {w' : World}
    (hrun : run w = (outcome.map fun _ => .continues, w')) {α : Type} (a : α) :
    (Run.guarded site run >>= fun _ => pure a) w =
      ((concluded site outcome w').1.map fun _ => a, (concluded site outcome w').2) := by
  cases outcome with
  | ok value => exact (bind_of_ok (Run.guarded_of_ok hrun)).trans rfl
  | error halt =>
    cases halt with
    | fault fault => exact (bind_of_ok (Run.guarded_of_fault hrun)).trans rfl
    | crash =>
      apply bind_of_error
      unfold Run.guarded
      exact bind_of_error (Run.attempt_of_crash hrun)

/-- A constructor under a guard runs as it should, and its guard concludes it. -/
theorem execute_constructor_eq (thread : String) (h : w.monitors[number]? = some m)
    (hw : w.IsOrderly) (hm : m.IsBegun usings blocks) (site : String) :
    ∃ outcome w', Constructs (m.bindings.code m.qualifiedName) m.qualifiedName number thread
        m.registry usings blocks w outcome w' ∧
      execute callDepth thread number [.guarded site (.callSelf initializeMethod ::
        ((List.range blocks).map codeName).map .callSelf)] w = concluded site outcome w' := by
  obtain ⟨outcome, w', hconstructs, hcalls⟩ := constructor_calls 61 thread
    (fun body => body.run (answer (execute 63 thread)) thread) h hw hm
  refine ⟨outcome, w', hconstructs, ?_⟩
  have hstmt : runStmt (execute 63 thread number)
      (fun body => body.run (answer (execute 63 thread)) thread) number
        (.guarded site (.callSelf initializeMethod ::
          ((List.range blocks).map codeName).map .callSelf)) w =
      ((concluded site outcome w').1.map fun _ => .continues, (concluded site outcome w').2) := by
    rw [runStmt]
    exact guarded_run hcalls _
  unfold callDepth
  rw [execute, runStmts]
  cases hconcluded : concluded site outcome w' with
  | mk ending w'' =>
    rw [hconcluded] at hstmt
    cases ending with
    | ok value => exact (bind_of_ok ((bind_of_ok hstmt).trans rfl)).trans rfl
    | error halt => exact bind_of_error (bind_of_error hstmt)

end Constructors

end Watchtower.Live
