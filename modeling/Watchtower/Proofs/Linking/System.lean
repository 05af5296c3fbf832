-- Linked systems. The accepted declarations of one package are linked together: the roots get
-- connections under their canonical names, and after them the monitors, none of which disturbs
-- another.
import Watchtower.Linking.System
import Watchtower.Proofs.Linking.Monitor
import Watchtower.Proofs.Report

namespace Watchtower.Linking

open Live
open Source (Declaration SourceUnit)
open Text (Undotted)

/-! ## Accepted declarations -/

/-- A root namespace that passes its checks. -/
def acceptedSpace? : Declaration → Option Source.Namespace
  | .space decl => (Members.checkSpace decl).toOption.map fun _ => decl
  | .monitor _ => none

theorem isProxy_ofSpace (package : Option String) (decl : Source.Namespace) :
    isProxy (Blueprint.ofSpace package decl) = true := rfl

theorem isProxy_of_monitor {b : Blueprint} (h : b.kind = .monitor) : isProxy b = false := by
  unfold isProxy
  rw [h]

/-- The proxies among the blueprints are those of the accepted root namespaces. -/
theorem proxies_lowerAll (package : Option String) (index : SpaceIndex) (decls : List Declaration) :
    (lowerAll package index decls).filter isProxy =
      (decls.filterMap acceptedSpace?).map (Blueprint.ofSpace package) := by
  induction decls with
  | nil => rfl
  | cons decl rest ih =>
    cases decl with
    | monitor decl =>
      rw [List.filterMap_cons_none rfl]
      cases hout : Report.outcome true package index (.monitor decl) with
      | error rejection => rw [lowerAll_cons_of_error hout, ih]
      | ok b =>
        have hkind := (isLoweredFrom_of_ofMonitor (outcome_eq_ok.mp hout).2).kind
        have hnot : ¬ isProxy b = true := by simp [isProxy_of_monitor hkind]
        rw [lowerAll_cons_of_ok hout, List.filter_cons_of_neg hnot, ih]
    | space decl =>
      cases hcheck : Members.checkSpace decl with
      | error rejection =>
        have hout : Report.outcome true package index (.space decl) = .error rejection := by
          show Members.checkSpace decl >>= _ = _
          rw [hcheck]
          rfl
        have hnone : acceptedSpace? (.space decl) = none := by
          simp [acceptedSpace?, hcheck, Except.toOption]
        rw [lowerAll_cons_of_error hout, List.filterMap_cons_none hnone, ih]
      | ok =>
        have hout : Report.outcome true package index (.space decl) =
            .ok (Blueprint.ofSpace package decl) :=
          outcome_eq_ok.mpr ⟨hcheck, rfl⟩
        have hsome : acceptedSpace? (.space decl) = some decl := by
          simp [acceptedSpace?, hcheck, Except.toOption]
        rw [lowerAll_cons_of_ok hout, List.filter_cons_of_pos (isProxy_ofSpace package decl), ih,
          List.filterMap_cons_some hsome, List.map_cons]

/-! ## Monitors -/

/-- The name of a declared monitor. -/
def monitorName? : Declaration → Option String
  | .monitor decl => some decl.name
  | .space _ => none

/-- No consumer has a queue that could belong to an event of the declared monitors. -/
def HasFreeQueues (package : Option String) (decls : List Declaration) (w : World) : Prop :=
  ∀ c ∈ w.consumers, ∀ name ∈ decls.filterMap monitorName?, ∀ event, Undotted event →
    ¬ Owns (Source.qualify package name) event c.config.queue

/-- The accepted ones of the declared monitors are linked, under some of these numbers. -/
def AreLinked (package : Option String) (index : SpaceIndex) (bindings : Bindings)
    (decls : List Declaration) (numbers : List Nat) (w : World) : Prop :=
  ∀ decl, .monitor decl ∈ decls → (Report.outcome true package index (.monitor decl)).isOk →
    ∃ n ∈ numbers, ∃ m, w.monitors[n]? = some m ∧ IsLinked package index decl bindings w n m

section Monitors

variable {package : Option String} {index : SpaceIndex} {bindings : Bindings}
  {first : Declaration} {rest : List Declaration} {w w' : World}

theorem AreLinked.skip {numbers : List Nat}
    (h : AreLinked package index bindings rest numbers w)
    (hfirst : ∀ decl, first = .monitor decl → ¬ (Report.outcome true package index first).isOk) :
    AreLinked package index bindings (first :: rest) numbers w := by
  intro decl hmem hok
  rcases List.mem_cons.mp hmem with heq | hmem
  · exact absurd (heq ▸ hok) (hfirst decl heq.symm)
  · exact h decl hmem hok

/-- The queues of a monitor that was linked are not in the way of monitors with other names. -/
theorem hasFreeQueues_of_grows {decl : Source.Monitor} (htidy : IsTidy package index decl)
    (hdots : ∀ name ∈ rest.filterMap monitorName?, Undotted name)
    (hother : decl.name ∉ rest.filterMap monitorName?) (hfree : HasFreeQueues package rest w)
    (h : w.Grows (OwnsAny (Source.qualify package decl.name) decl.body) w') :
    HasFreeQueues package rest w' := by
  obtain ⟨more, hmore, hnew⟩ := h.consumers
  intro c hc name hname event hevent howns
  rw [hmore] at hc
  rcases List.mem_append.mp hc with hold | hadded
  · exact hfree c hold name hname event hevent howns
  · obtain ⟨⟨own, hown, howns'⟩, -⟩ := hnew c hadded
    have hsame := (owners_unique htidy.name (htidy.members own (eventName?_mem_name? hown))
      (hdots name hname) hevent howns' howns).1
    exact hother (hsame ▸ hname)

theorem nodup_monitorNames_tail (h : ((first :: rest).filterMap monitorName?).Nodup) :
    (rest.filterMap monitorName?).Nodup := by
  cases first with
  | space decl => exact h
  | monitor decl => exact (List.nodup_cons.mp h).2

theorem HasFreeQueues.tail (h : HasFreeQueues package (first :: rest) w) :
    HasFreeQueues package rest w := by
  intro c hc name hname
  apply h c hc name
  obtain ⟨decl, hdecl, heq⟩ := List.mem_filterMap.mp hname
  exact List.mem_filterMap.mpr ⟨decl, List.mem_cons_of_mem _ hdecl, heq⟩

end Monitors

/-- All accepted monitors are linked, and each stays as it was linked. -/
theorem linkMonitors_links {package : Option String} {index : SpaceIndex} {bindings : Bindings}
    (hcode : ∀ name index, bindings.code name index = none) {decls : List Declaration}
    (htidy : ∀ decl, .monitor decl ∈ decls → IsTidy package index decl)
    (hnames : (decls.filterMap monitorName?).Nodup) {w : World} (hw : w.IsWired)
    (hfree : HasFreeQueues package decls w) :
    ∃ numbers w', linkMonitors bindings (lowerAll package index decls) w = (.ok numbers, w') ∧
      w.Grows (fun _ => True) w' ∧ AreLinked package index bindings decls numbers w' := by
  -- On the declarations. The world may be any in which the queues of those to come are free.
  induction decls generalizing w with
  | nil =>
    refine ⟨[], w, rfl, .refl _ w, ?_⟩
    intro decl hmem
    cases hmem
  | cons first rest ih =>
    have htidy' : ∀ decl, .monitor decl ∈ rest → IsTidy package index decl :=
      fun decl hdecl => htidy decl (List.mem_cons_of_mem _ hdecl)
    have hdots : ∀ name ∈ rest.filterMap monitorName?, Undotted name := by
      intro name hname
      obtain ⟨other, hother, heq⟩ := List.mem_filterMap.mp hname
      cases other with
      | space => cases heq
      | monitor decl =>
        cases heq
        exact (htidy' decl hother).name
    have hrest : ∀ {w : World}, w.IsWired → HasFreeQueues package rest w →
        ∃ numbers w', linkMonitors bindings (lowerAll package index rest) w = (.ok numbers, w') ∧
          w.Grows (fun _ => True) w' ∧ AreLinked package index bindings rest numbers w' :=
      ih htidy' (nodup_monitorNames_tail hnames)
    cases hout : Report.outcome true package index first with
    | error rejection =>
      obtain ⟨numbers, w', hlink, hgrows, hall⟩ := hrest hw hfree.tail
      rw [lowerAll_cons_of_error hout]
      refine ⟨numbers, w', hlink, hgrows, hall.skip fun decl _ hok => ?_⟩
      rw [hout] at hok
      cases hok
    | ok b =>
      obtain ⟨hcheck, hlower⟩ := outcome_eq_ok.mp hout
      rw [lowerAll_cons_of_ok hout]
      cases first with
      | space decl =>
        cases hlower
        obtain ⟨numbers, w', hlink, hgrows, hall⟩ := hrest hw hfree.tail
        rw [linkMonitors_cons_of_other (by nofun)]
        exact ⟨numbers, w', hlink, hgrows, hall.skip nofun⟩
      | monitor decl =>
        have hlowered := isLoweredFrom_of_ofMonitor hlower
        have htidy₁ := htidy decl List.mem_cons_self
        obtain ⟨m, w₁, hlink, hgrows, hmonitors, hlinked⟩ := linkMonitor_links hlowered hcheck htidy₁
          hcode hw fun c hc event hevent => hfree c hc decl.name List.mem_cons_self event hevent
        obtain ⟨others, w', hothers, hgrows', hall⟩ := hrest (hgrows.wired hw)
          (hasFreeQueues_of_grows htidy₁ hdots (List.nodup_cons.mp hnames).1 hfree.tail hgrows)
        refine ⟨w.monitors.length :: others, w',
          linkMonitors_cons_of_ok hlowered.kind hlink hothers,
          (hgrows.mono fun _ _ => trivial).trans hgrows', ?_⟩
        intro other hmem hok
        rcases List.mem_cons.mp hmem with heq | hmem
        · cases heq
          have hm : w₁.monitors[w.monitors.length]? = some m := by simp [hmonitors]
          exact ⟨_, List.mem_cons_self, m, hgrows'.monitor hm, hlinked.grows hgrows'⟩
        · obtain ⟨n, hn, found⟩ := hall other hmem hok
          exact ⟨n, List.mem_cons_of_mem _ hn, found⟩

/-! ## Systems -/

/-- The name of a declared root namespace. -/
def spaceName? : Declaration → Option String
  | .space decl => some decl.name
  | .monitor _ => none

/-- The accepted root namespaces are among the declared ones. -/
theorem acceptedSpaces_sublist (decls : List Declaration) :
    ((decls.filterMap acceptedSpace?).map (·.name)).Sublist (decls.filterMap spaceName?) := by
  induction decls with
  | nil => simp
  | cons first rest ih =>
    cases first with
    | monitor decl => exact ih
    | space decl =>
      cases haccepted : acceptedSpace? (.space decl) with
      | none =>
        rw [List.filterMap_cons_none haccepted]
        exact ih.cons _
      | some found =>
        have hfound : found = decl := by
          obtain ⟨-, -, heq⟩ := Option.map_eq_some_iff.mp haccepted
          exact heq.symm
        rw [List.filterMap_cons_some haccepted, hfound]
        exact ih.cons_cons decl.name

theorem mem_of_acceptedSpace {decls : List Declaration} {decl : Source.Namespace}
    (h : decl ∈ decls.filterMap acceptedSpace?) : .space decl ∈ decls := by
  obtain ⟨item, hitem, heq⟩ := List.mem_filterMap.mp h
  cases item with
  | monitor => cases heq
  | space found =>
    obtain ⟨-, -, rfl⟩ := Option.map_eq_some_iff.mp heq
    exact hitem

/-- A system as it is linked: it is wired and its roots are connected, nobody observes its
sources, and each monitor has sources of its own. -/
structure IsSystem (package : Option String) (w : World) : Prop where
  wired : w.IsWired
  spaces : HasSpaces w package 0
  sources : ∀ s ∈ w.sources, s.observers = [] ∧ s.paused = false
  monitors : ∀ m ∈ w.monitors, m.IsFresh 0 w.sources.length
  apart : w.monitors.Pairwise Monitor.IsBefore
  journal : w.journal = []

/-- The accepted declarations of a package are linked over a store. -/
theorem linkAll_links {package : Option String} {index : SpaceIndex} (bindings : Bindings)
    (hcode : ∀ name index, bindings.code name index = none) {decls : List Declaration}
    (htidy : ∀ decl, .monitor decl ∈ decls → IsTidy package index decl)
    (hmonitors : (decls.filterMap monitorName?).Nodup)
    (hspaces : (decls.filterMap spaceName?).Nodup)
    (hliteral : ∀ decl, .space decl ∈ decls → ∀ v,
      .variable v ∈ Source.SpaceItem.allWithin decl.body → v.initializer.IsLiteral)
    (store : Store) :
    ∃ numbers w, linkAll bindings 0 (lowerAll package index decls) { stores := [store] } =
        (.ok numbers, w) ∧
      IsSystem package w ∧ AreLinked package index bindings decls numbers w := by
  have hnames := hspaces.sublist (acceptedSpaces_sublist decls)
  have hnone : HasSpaces { stores := [store] } package 0 := by
    intro root handle hlookup
    cases hlookup
  obtain ⟨connections, stores, spaces, hroots, hhas⟩ := linkSpaces_ofSpaces bindings
    (w := { stores := [store] }) hnames (fun _ _ => rfl) rfl
    (fun decl hdecl => hliteral decl (mem_of_acceptedSpace hdecl)) hnone
  generalize hw₀ : ({ ({ stores := [store] } : World) with connections, stores, spaces } : World) =
    w₀ at hroots hhas
  have hempty : w₀.sources = [] ∧ w₀.consumers = [] ∧ w₀.monitors = [] ∧ w₀.journal = [] := by
    rw [← hw₀]
    exact ⟨rfl, rfl, rfl, rfl⟩
  have hwired : w₀.IsWired := by
    rw [← hw₀]
    exact ⟨rfl, rfl, fun i c hc => by simp at hc, by simp⟩
  have hfree : HasFreeQueues package decls w₀ := by
    intro c hc
    rw [hempty.2.1] at hc
    cases hc
  obtain ⟨numbers, w, hlink, hgrows, hall⟩ := linkMonitors_links hcode htidy hmonitors hwired hfree
  refine ⟨numbers, w, ?_, ?_, hall⟩
  · unfold linkAll
    rw [proxies_lowerAll, bind_of_ok hroots]
    exact hlink
  · obtain ⟨more, hmore, hapart, hfresh⟩ := hgrows.monitors
    rw [hempty.2.2.1, List.nil_append] at hmore
    rw [hempty.1] at hfresh
    refine ⟨hgrows.wired hwired, ?_, ?_, ?_, ?_, hgrows.journal.trans hempty.2.2.2⟩
    · intro root handle hlookup
      rw [hgrows.spaces] at hlookup
      rw [hgrows.connections]
      exact hhas root handle hlookup
    · intro s hs
      obtain ⟨i, hi⟩ := List.getElem?_of_mem hs
      exact hgrows.fresh i s (by simp [hempty.1]) hi
    · rw [hmore]
      exact hfresh
    · rw [hmore]
      exact hapart

end Watchtower.Linking
