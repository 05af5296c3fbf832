-- How monitors are constructed. A checked monitor whose variables have values is linked, whatever
-- namespaces are there and whatever its code does. Its constructor binds the namespaces, then runs
-- the code blocks in their order, and where it stops early the one fault is recorded at its site.
import Watchtower.Proofs.Linking.Fields

namespace Watchtower.Linking

open Live
open Source (MonitorItem)

/-! ## Endings -/

/-- How linking ends by the outcome of a constructor: its fault is recorded at a site, and a crash
drops the monitor. -/
def ending (site : String) (number : Nat) (outcome : Except Halt Unit) (w : World) :
    Except Refusal Nat × World :=
  match outcome with
  | .ok () => (.ok number, w)
  | .error (.fault fault) => (.ok number, w.record site fault)
  | .error .crash => (.error .crashed, w.dropMonitor number)

/-- A monitor whose fields are made is linked as its constructor ends. -/
theorem linkMonitor_of_fields {bindings : Bindings} {b : Blueprint} (hkind : b.kind = .monitor)
    {members : MonitorMembers} {w w₁ w₂ : World}
    (hfields : b.fields.foldlM (addField ⟨w.monitors.length, b, bindings⟩) {} w = (.ok members, w₁))
    {site : String} {outcome : Except Halt Unit}
    (hrun : execute callDepth "" w.monitors.length b.constructor
      { w₁ with monitors := w₁.monitors ++ [newMonitor b bindings members w₁.spaces] } =
        concluded site outcome w₂) :
    linkMonitor bindings b w = ending site w.monitors.length outcome w₂ := by
  unfold linkMonitor
  simp only [hkind, ne_eq, not_true_eq_false, if_false]
  rw [get_bind, bind_of_ok (orElseUndo_of_ok hfields), modify_bind]
  cases outcome with
  | ok value => exact bind_of_ok (orElseUndo_of_ok (Link.ofRun_of_ok hrun))
  | error halt =>
    cases halt with
    | fault fault => exact bind_of_ok (orElseUndo_of_ok (Link.ofRun_of_ok hrun))
    | crash =>
      have hcrash : Link.ofRun b.qualifiedName
          (execute callDepth "" w.monitors.length b.constructor)
          { w₁ with monitors := w₁.monitors ++ [newMonitor b bindings members w₁.spaces] } =
            (.error .crashed, w₂) := by
        unfold Link.ofRun
        rw [hrun]
        rfl
      exact bind_of_error (orElseUndo_of_error hcrash)

theorem failuresAt_record (w : World) (site : String) (fault : Fault) :
    (w.record site fault).failuresAt site = w.failuresAt site ++ [⟨site, fault.message⟩] := by
  simp [World.failuresAt, World.record]

section Monitors

variable {package : Option String} {index : SpaceIndex} {decl : Source.Monitor} {b : Blueprint}

/-- The constructor of a monitor that starts runs as it should. -/
theorem Starts.constructs (hlower : Blueprint.ofMonitor package index decl = .ok b)
    {bindings : Bindings} {w w₁ : World} {m : Monitor}
    (h : Starts package decl bindings w m w₁) :
    ∃ outcome w₂, Constructs (bindings.code (Source.qualify package decl.name))
        (Source.qualify package decl.name) w.monitors.length "" w.spaces decl.usings
        (codeCount decl.body) w₁ outcome w₂ ∧
      execute callDepth "" w.monitors.length b.constructor w₁ =
        concluded (Naming.pascal decl.name ++ "::new") outcome w₂ := by
  rw [(constructor_of_ofMonitor hlower).1, ← h.name, ← h.bindings, ← h.registry]
  exact execute_constructor_eq "" h.monitor h.orderly h.begun _

/-- A checked monitor whose variables have values starts, and is linked as its constructor ends. -/
theorem linkMonitor_constructs (hlower : Blueprint.ofMonitor package index decl = .ok b)
    (hcheck : Members.checkMonitor index decl = .ok ()) {bindings : Bindings}
    (hvalues : ∀ v, .variable v ∈ decl.body → Succeeds
      (bindings.initial (Source.qualify package decl.name ++ "." ++ v.name) v.initializer))
    {w : World} (hw : w.IsOrderly) :
    ∃ m w₁ outcome w₂, Starts package decl bindings w m w₁ ∧
      Constructs (bindings.code (Source.qualify package decl.name))
        (Source.qualify package decl.name) w.monitors.length "" w.spaces decl.usings
        (codeCount decl.body) w₁ outcome w₂ ∧
      linkMonitor bindings b w =
        ending (Naming.pascal decl.name ++ "::new") w.monitors.length outcome w₂ := by
  have hlowered := isLoweredFrom_of_ofMonitor hlower
  obtain ⟨members, w₁, hfields⟩ := fields_succeed hlowered hvalues w.monitors.length w
  have hstarts := starts_of_fields hlower hcheck hw hfields
  obtain ⟨outcome, w₂, hconstructs, hrun⟩ := hstarts.constructs hlower
  exact ⟨_, _, outcome, w₂, hstarts, hconstructs,
    linkMonitor_of_fields hlowered.kind hfields hrun⟩

/-! ## The law -/

/-- A checked monitor is linked in an orderly world, where all its variables have values. It is
added, and then its constructor goes as it should: without a fault nothing is recorded at its site,
and with a fault just that. The world stays orderly, and later transitions of the monitor, on
whatever thread, find all they look for. Only a crash of user code keeps the monitor from being
linked. -/
theorem a_constructor_binds_namespaces_and_runs_its_code
    (haccepted : Report.outcome true package index (.monitor decl) = .ok b) {bindings : Bindings}
    (hvalues : ∀ v, .variable v ∈ decl.body → Succeeds
      (bindings.initial (Source.qualify package decl.name ++ "." ++ v.name) v.initializer))
    {w : World} (hw : w.IsOrderly) :
    ∃ m w₁ outcome w₂, w₁.monitors = w.monitors ++ [m] ∧ m.proxies = [] ∧
      w₁.journal = w.journal ∧
      Constructs (bindings.code (Source.qualify package decl.name))
        (Source.qualify package decl.name) w.monitors.length "" w.spaces decl.usings
        (codeCount decl.body) w₁ outcome w₂ ∧
      w₂.failures = w₁.failures ∧ w₂.IsOrderly ∧
      (match outcome with
        | .ok () => linkMonitor bindings b w = (.ok w.monitors.length, w₂) ∧
          w₂.failuresAt (Naming.pascal decl.name ++ "::new") =
            w.failuresAt (Naming.pascal decl.name ++ "::new")
        | .error (.fault fault) => ∃ w₃, linkMonitor bindings b w = (.ok w.monitors.length, w₃) ∧
          w₃ = w₂.record (Naming.pascal decl.name ++ "::new") fault ∧
          w₃.failuresAt (Naming.pascal decl.name ++ "::new") =
            w.failuresAt (Naming.pascal decl.name ++ "::new") ++
              [⟨Naming.pascal decl.name ++ "::new", fault.message⟩]
        | .error .crash =>
          linkMonitor bindings b w = (.error .crashed, w₂.dropMonitor w.monitors.length)) ∧
      ∀ w₃ m₃ thread paused, w₃.monitors[w.monitors.length]? = some m₃ →
        m₃.methods = m.methods → m₃.events = m.events → ∃ w₄,
          transition (execute callDepth thread w.monitors.length) w.monitors.length
            (transitionTo paused) w₃ = (.ok (), w₄) ∧ w₄.failures = w₃.failures := by
  obtain ⟨hcheck, hlower⟩ := outcome_eq_ok.mp haccepted
  obtain ⟨m, w₁, outcome, w₂, hstarts, hconstructs, hlink⟩ :=
    linkMonitor_constructs hlower hcheck hvalues hw
  obtain ⟨proxies, hfollows, -⟩ := hconstructs.follows hstarts.orderly hstarts.monitor
  have hfailures : w₂.failures = w₁.failures := hfollows.failures
  have hsite : w₂.failuresAt (Naming.pascal decl.name ++ "::new") =
      w.failuresAt (Naming.pascal decl.name ++ "::new") := by
    rw [← hstarts.failures]
    unfold World.failuresAt
    rw [hfailures]
  refine ⟨m, w₁, outcome, w₂, hstarts.monitors, hstarts.begun.unbound, hstarts.journal, hconstructs,
    hfailures, (hstarts.orderly.bindAt hstarts.monitor proxies).follows hfollows, ?_, ?_⟩
  · cases outcome with
    | ok value => exact ⟨hlink, hsite⟩
    | error halt =>
      cases halt with
      | fault fault => exact ⟨_, hlink, rfl, by rw [failuresAt_record, hsite]⟩
      | crash => exact hlink
  · intro w₃ m₃ thread paused hm₃ hmethods hevents
    have hsteered := (hstarts.orderly m (List.mem_of_getElem? hstarts.monitor)).1
    exact ⟨_, transition_steers hm₃ (hsteered.congr hmethods hevents) paused,
      (World.follows_steer hm₃ paused).failures⟩

end Monitors

/-- A monitor that uses a namespace and has a variable and three code blocks. -/
def codeMonitor : Source.Monitor :=
  ⟨"Perf", ["cpu"], [
    .code "first()",
    .variable ⟨"count", none, .literal (.number "0"), true⟩,
    .code "second()",
    .code "third()"], none⟩

/-- Code that notes something, but for the second block, which fails. -/
def failingCode : Bindings where
  code _ i := some fun _ => if i = 1 then .fail (.user "no") else .note "code" (.value .null) .done

/-- A world with the namespace. -/
def cpuWorld : World :=
  { spaces := [("cpu", .ofShape ⟨"cpu", [("load", true)], []⟩ none)] }

theorem a_failing_code_block_is_recorded_once :
    ∃ b w', Report.outcome true (some "demo") ⟨[("cpu", "cpu")]⟩ (.monitor codeMonitor) = .ok b ∧
      linkMonitor failingCode b cpuWorld = (.ok 0, w') ∧
      w'.failuresAt "Perf::new" = [⟨"Perf::new", "no"⟩] := by
  have haccepted : (Report.outcome true (some "demo") ⟨[("cpu", "cpu")]⟩
      (.monitor codeMonitor)).toOption.isSome = true := by decide +kernel
  obtain ⟨b, hb⟩ := Option.isSome_iff_exists.mp haccepted
  have hb := toOption_eq_some_iff.mp hb
  have hvalues : ∀ v, .variable v ∈ codeMonitor.body → Succeeds (failingCode.initial
      (Source.qualify (some "demo") codeMonitor.name ++ "." ++ v.name) v.initializer) := by
    intro v hv
    have hcount : v = ⟨"count", none, .literal (.number "0"), true⟩ := by
      simpa [codeMonitor] using hv
    rw [hcount]
    exact ⟨_, rfl⟩
  have hw : cpuWorld.IsOrderly := by
    intro m hm
    cases hm
  obtain ⟨m, w₁, outcome, w₂, -, -, -, hconstructs, -, -, hends, -⟩ :=
    a_constructor_binds_namespaces_and_runs_its_code hb hvalues hw
  -- The first block ends well and the second fails, so the constructor ends with its fault.
  have houtcome : outcome = .error (.fault (.user "no")) := by
    cases hconstructs with
    | lacks hm hspace hbound => simp [codeMonitor, isThere, cpuWorld] at hspace
    | runs hm hthere hbound hruns =>
      have hrange : List.range (codeCount codeMonitor.body) = [0, 1, 2] := rfl
      rw [hrange] at hruns
      cases hruns with
      | unbound rest w hcode => cases hcode
      | halts rest hcode hbegins hrun =>
        cases hcode
        cases hrun
      | next hcode hbegins hrun hrest =>
        cases hrest with
        | unbound rest w hcode => cases hcode
        | halts rest hcode hbegins hrun =>
          cases hcode
          cases hrun
          rfl
        | next hcode hbegins hrun hrest =>
          cases hcode
          cases hrun
  subst houtcome
  obtain ⟨w₃, hlink, -, hfailures⟩ := hends
  have hsite : Naming.pascal codeMonitor.name ++ "::new" = "Perf::new" := by decide +kernel
  rw [hsite] at hfailures
  exact ⟨b, w₃, hb, hlink, hfailures⟩

end Watchtower.Linking
