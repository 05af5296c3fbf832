-- Systems in any order. The accepted types of a package are linked in two orders. Either both are
-- linked or both are refused, and if they are linked, the two worlds look alike.
import Watchtower.Proofs.Order.Monitors
import Watchtower.Proofs.Order.Reading
import Watchtower.Proofs.Order.Roots

namespace Watchtower.Linking

open Live
open Source (Declaration SourceUnit)

/-! ## Roots -/

/-- What is a list of images but for the order is the list of images of some order. -/
theorem exists_map_of_perm {α β : Type} {f : α → β} {items : List α} {images : List β}
    (h : images.Perm (items.map f)) :
    ∃ items' : List α, images = items'.map f ∧ items'.Perm items :=
  (congrFun (congrFun (List.eq_map_comp_perm f) images) items).mpr h

section Systems

variable {package : Option String} {index : SpaceIndex} {decls : List Declaration}
  {bindings : Bindings} {bs bs' : List Blueprint}

theorem isPlain_of_acceptedSpace (h : AreDistinct package index decls) {d : Source.Namespace}
    (hd : d ∈ decls.filterMap acceptedSpace?) : IsPlain (package, d) := by
  refine ⟨?_, h.names _ (mem_of_acceptedSpace hd)⟩
  obtain ⟨item, -, haccepted⟩ := List.mem_filterMap.mp hd
  cases item with
  | monitor => cases haccepted
  | space found =>
    obtain ⟨value, hchecked, rfl⟩ := Option.map_eq_some_iff.mp haccepted
    exact toOption_eq_some_iff.mp hchecked

/-- All roots are linked before the monitors, in whatever order. -/
theorem linkAll_eq_linkMonitors (bindings : Bindings) (hdistinct : AreDistinct package index decls)
    (hspaces : (decls.filterMap spaceName?).Nodup)
    (hliterals : ∀ decl ∈ decls, ∀ v ∈ decl.variables, v.initializer.IsLiteral)
    (hbs : bs.Perm (lowerAll package index decls)) :
    ∃ roots w, linkAll bindings 0 bs { stores := [.memory []] } = linkMonitors bindings bs w ∧
      HasRoots bindings package roots w ∧ (∀ d, d ∈ roots ↔ d ∈ decls.filterMap acceptedSpace?) ∧
      IsVacant w ∧ w.failures = [] := by
  have hproxies := hbs.filter isProxy
  rw [proxies_lowerAll] at hproxies
  obtain ⟨roots, hroots, hperm⟩ := exists_map_of_perm hproxies
  have hplain : ∀ d ∈ roots ++ [], IsPlain (package, d) := by
    intro d hd
    rw [List.append_nil, hperm.mem_iff] at hd
    exact isPlain_of_acceptedSpace hdistinct hd
  have hnames : ((roots ++ []).map Source.Namespace.name).Nodup := by
    rw [List.append_nil, (hperm.map Source.Namespace.name).nodup_iff]
    exact hspaces.sublist (acceptedSpaces_sublist decls)
  have hvalues : ∀ d ∈ roots, ∀ v, .variable v ∈ Source.SpaceItem.allWithin d.body →
      v.initializer.IsLiteral := by
    intro d hd v hv
    exact hliterals _ (mem_of_acceptedSpace (hperm.mem_iff.mp hd)) v
      (List.mem_filterMap.mpr ⟨_, hv, rfl⟩)
  obtain ⟨connections, stores, spaces, hlink, hhas⟩ :=
    (hasRoots_of_empty bindings package).linkAll hplain hnames hvalues
  refine ⟨roots.reverse ++ [], _, ?_, hhas, fun d => ?_, ⟨rfl, rfl, rfl, rfl, rfl⟩, rfl⟩
  · unfold linkAll
    rw [hroots, bind_of_ok hlink]
  · rw [List.append_nil, List.mem_reverse, hperm.mem_iff]

/-! ## Monitors -/

theorem monitorBindings_perm (h : bs'.Perm bs) :
    (monitorBindings bs').Perm (monitorBindings bs) :=
  (h.filterMap _).flatMap_right _

/-- A world in which only roots were linked is set for the monitors of a package. -/
theorem isSetFor_of_isVacant (hdistinct : AreDistinct package index decls)
    (hbs : bs.Perm (lowerAll package index decls)) {w : World} (hw : IsVacant w) :
    IsSetFor w.stores w.viewSpaces bs [] w := by
  refine ⟨hw.isOrderly, ⟨?_, ?_, fun _ c hc => ?_⟩, ?_, rfl, rfl⟩
  · rw [hw.consumers]
    rfl
  · rw [hw.bindings, hw.consumers]
    rfl
  · rw [hw.consumers] at hc
    cases hc
  · rw [List.nil_append, ((monitorBindings_perm hbs).map _).nodup_iff]
    exact hdistinct.nodup_queues

/-- A monitor of the package comes to the same wherever it is linked. -/
theorem exists_linkage_of_mem (hdistinct : AreDistinct package index decls)
    (hliterals : ∀ decl ∈ decls, ∀ v ∈ decl.variables, v.initializer.IsLiteral)
    (hinert : bindings.IsInert) (hbs : bs.Perm (lowerAll package index decls))
    (stores : List Store) (spaces : List (String × HandleView)) {b : Blueprint}
    (hb : b ∈ monitorsOf bs) :
    ∃ linkage, ComesTo bindings stores spaces b linkage := by
  obtain ⟨hmem, hkind⟩ := List.mem_filter.mp hb
  obtain ⟨decl, hdecl, hout⟩ := mem_lowerAll.mp (hbs.mem_iff.mp hmem)
  cases decl with
  | space decl =>
    cases (outcome_eq_ok.mp hout).2
    exact absurd (of_decide_eq_true hkind) nofun
  | monitor decl =>
    refine exists_linkage hout (hdistinct.types _ hdecl) (fun v hv => ?_) hinert stores spaces
    exact hliterals _ hdecl v (List.mem_filterMap.mpr ⟨_, hv, rfl⟩)

/-- Types that are linked in one order are linked in another, and both worlds look alike. -/
theorem linkAll_of_perm (hdistinct : AreDistinct package index decls)
    (hspaces : (decls.filterMap spaceName?).Nodup)
    (hliterals : ∀ decl ∈ decls, ∀ v ∈ decl.variables, v.initializer.IsLiteral)
    (hinert : bindings.IsInert) (hbs : bs.Perm (lowerAll package index decls))
    (hbs' : bs'.Perm (lowerAll package index decls)) {numbers : List Nat} {w : World}
    (hlink : linkAll bindings 0 bs { stores := [.memory []] } = (.ok numbers, w)) :
    ∃ numbers' w', linkAll bindings 0 bs' { stores := [.memory []] } = (.ok numbers', w') ∧
      w.LooksAlike w' := by
  obtain ⟨roots, w₀, heq, hroots, hmem, hvacant, hnone⟩ :=
    linkAll_eq_linkMonitors bindings hdistinct hspaces hliterals hbs
  obtain ⟨roots', w₀', heq', hroots', hmem', hvacant', hnone'⟩ :=
    linkAll_eq_linkMonitors bindings hdistinct hspaces hliterals hbs'
  obtain ⟨hstores, hviews⟩ :=
    hroots.alike hroots' fun d => (hmem' d).trans (hmem d).symm
  have hmonitors : (monitorsOf bs').Perm (monitorsOf bs) := (hbs'.trans hbs.symm).filter _
  choose! linkage hlinkage using fun b (hb : b ∈ monitorsOf bs) =>
    exists_linkage_of_mem hdistinct hliterals hinert hbs w₀.stores w₀.viewSpaces hb
  have hset := isSetFor_of_isVacant hdistinct hbs hvacant
  have hset' := isSetFor_of_isVacant hdistinct hbs' hvacant'
  rw [hstores, hviews] at hset'
  have hlinkage' : ∀ b ∈ monitorsOf bs',
      ComesTo bindings w₀.stores w₀.viewSpaces b (linkage b) :=
    fun b hb => hlinkage b (hmonitors.mem_iff.mp hb)
  rw [heq] at hlink
  rw [heq']
  obtain ⟨hsome, hadds⟩ := linkMonitors_adds hlinkage hset hlink
  obtain ⟨numbers', w', hlink'⟩ := linkMonitors_succeeds hlinkage' hset'
    fun b hb => hsome b (hmonitors.mem_iff.mp hb)
  obtain ⟨-, hadds'⟩ := linkMonitors_adds hlinkage' hset' hlink'
  have hadded := hmonitors.filterMap linkage
  have hempty : ∀ {w : World}, IsVacant w → w.ShowsAll [] := by
    intro w hw
    exact ⟨by simp [hw.monitors], by simp⟩
  refine ⟨numbers', w', hlink', ?_, ?_, ?_, ?_, _, _, hadds.looks [] (hempty hvacant),
    hadds'.looks [] (hempty hvacant'), ?_⟩
  · rw [hadds'.stays.stores, hadds.stays.stores, hstores]
  · rw [World.viewSpaces_congr hadds'.stays.spaces hadds'.stays.connections,
      World.viewSpaces_congr hadds.stays.spaces hadds.stays.connections, hviews]
  · rw [hadds'.provides.bound_eq trivial, hadds.provides.bound_eq trivial]
    exact monitorBindings_perm (hbs'.trans hbs.symm)
  · rw [hadds'.failures, hadds.failures, hnone, hnone']
    exact hadded.flatMap_right _
  · exact hadded.map _

end Systems

/-! ## The law -/

/-- The declarations of a package that are accepted. -/
def acceptedOf (package : Option String) (units : List SourceUnit) : List Declaration :=
  (declarationsOf units).filter fun decl =>
    (Report.outcome true package (SpaceIndex.ofUnits units) decl).isOk

/-- The accepted types of a package are those of its accepted declarations. -/
theorem blueprints_eq_acceptedOf {package : Option String} {units : List SourceUnit}
    (hpackage : ∀ unit ∈ units, unit.package = package) :
    (Report.ofUnits units true).blueprints =
      lowerAll package (SpaceIndex.ofUnits units) (acceptedOf package units) := by
  rw [blueprints_ofUnits hpackage]
  unfold acceptedOf lowerAll declarationsOf
  rw [List.filterMap_filter]
  congr 1
  funext decl
  cases Report.outcome true package (SpaceIndex.ofUnits units) decl with
  | error rejection => rfl
  | ok b => rfl

/-- The accepted types of a package are linked in two orders over empty stores, with the same user
code, where all values are literals and the code blocks have no effects. Either both are linked or
both are refused. If they are linked, the stores hold the same, the same roots are linked with the
same trees, the same queues are bound, the same failures are recorded, and the monitors look the
same: each has the same variables, events and handlers, and the same namespaces are bound. -/
theorem linking_does_not_depend_on_the_order {package : Option String} {units : List SourceUnit}
    (hpackage : ∀ unit ∈ units, unit.package = package)
    (hdistinct : AreDistinct package (SpaceIndex.ofUnits units) (acceptedOf package units))
    (hspaces : ((acceptedOf package units).filterMap spaceName?).Nodup)
    (hliterals : ∀ decl ∈ acceptedOf package units, ∀ v ∈ decl.variables,
      v.initializer.IsLiteral)
    {bindings : Bindings} (hinert : bindings.IsInert) {bs bs' : List Blueprint}
    (hbs : bs.Perm (Report.ofUnits units true).blueprints)
    (hbs' : bs'.Perm (Report.ofUnits units true).blueprints) :
    (linkAll bindings 0 bs { stores := [.memory []] }).1.isOk =
      (linkAll bindings 0 bs' { stores := [.memory []] }).1.isOk ∧
    ∀ {numbers numbers' : List Nat} {w w' : World},
      linkAll bindings 0 bs { stores := [.memory []] } = (.ok numbers, w) →
      linkAll bindings 0 bs' { stores := [.memory []] } = (.ok numbers', w') → w.LooksAlike w' := by
  rw [blueprints_eq_acceptedOf hpackage] at hbs hbs'
  have hother : ∀ {bs bs' : List Blueprint},
      bs.Perm (lowerAll package (SpaceIndex.ofUnits units) (acceptedOf package units)) →
      bs'.Perm (lowerAll package (SpaceIndex.ofUnits units) (acceptedOf package units)) →
      (linkAll bindings 0 bs { stores := [.memory []] }).1.isOk = true →
        (linkAll bindings 0 bs' { stores := [.memory []] }).1.isOk = true := by
    intro bs bs' hbs hbs' hok
    cases hlink : linkAll bindings 0 bs { stores := [.memory []] } with
    | mk outcome w =>
      rw [hlink] at hok
      cases outcome with
      | error refusal => cases hok
      | ok numbers =>
        obtain ⟨numbers', w', hlink', -⟩ :=
          linkAll_of_perm hdistinct hspaces hliterals hinert hbs hbs' hlink
        rw [hlink']
        rfl
  refine ⟨Bool.eq_iff_iff.mpr ⟨hother hbs hbs', hother hbs' hbs⟩, fun hlink hlink' => ?_⟩
  obtain ⟨numbers', w', hfound, halike⟩ :=
    linkAll_of_perm hdistinct hspaces hliterals hinert hbs hbs' hlink
  cases hfound.symm.trans hlink'
  exact halike

/-- A package with a root and two monitors that are accepted. Another monitor of the name of the
second is rejected. -/
def rivalUnits : List SourceUnit := [
  ⟨some "demo", [
    .monitor ⟨"Tap", [], [
      .event ⟨"call", .typed .invoke (.source "f()") none, none⟩,
      .handler ⟨"onCall", "call", "InvokeEvent", "", none, none⟩,
      .code "check()"], none⟩,
    .monitor ⟨"Perf", ["absent"], [], none⟩]⟩,
  ⟨some "demo", [
    .space ⟨"cpu", [
      .space "limits" [.variable ⟨"max", none, .literal (.number "5"), true⟩] none], none⟩,
    .monitor ⟨"Perf", ["cpu"], [
      .event ⟨"hot", .typed .change (.chain ["cpu", "limits", "max"]) none, none⟩,
      .event ⟨"tick", .periodic "* * * * *", none⟩,
      .handler ⟨"onHot", "change", "ChangeEvent", "", none, none⟩,
      .code "check()"], none⟩]⟩]

/-- Code that reads a limit of its monitor and fails with it. -/
def limitReader (number : Nat) : Body :=
  .request (.get number "cpu" ["limits"] "max") fun limit => .fail (.user limit.compact)

/-- The accepted types of the package. -/
def rivalBlueprints : List Blueprint := (Report.ofUnits rivalUnits true).blueprints

/-- The user code of the package: all code blocks read the limit. -/
def rivalBindings : Bindings where
  code _ _ := some limitReader

/-- The types of the package linked in some order over an empty store. -/
def rivalSystem (bs : List Blueprint) : Except Refusal (List Nat) × World :=
  linkAll rivalBindings 0 bs { stores := [.memory []] }

theorem rivals_look_alike_in_reverse :
    (rivalSystem rivalBlueprints).1.toOption = some [0, 1] ∧
    (rivalSystem rivalBlueprints.reverse).1.toOption = some [0, 1] ∧
    (rivalSystem rivalBlueprints).2.failures.map (·.site) = ["Tap::new", "Perf::new"] ∧
    (rivalSystem rivalBlueprints.reverse).2.failures.map (·.site) = ["Perf::new", "Tap::new"] ∧
    (rivalSystem rivalBlueprints).2.LooksAlike (rivalSystem rivalBlueprints.reverse).2 := by
  have hpackage : ∀ unit ∈ rivalUnits, unit.package = some "demo" := by decide +kernel
  have hdistinct : AreDistinct (some "demo") (SpaceIndex.ofUnits rivalUnits)
      (acceptedOf (some "demo") rivalUnits) := by decide +kernel
  have hinert : rivalBindings.IsInert := by
    refine isInert_of_readsAlike fun name i body hcode number number' => ?_
    cases hcode
    refine .ask (.get "cpu" ["limits"] "max") fun outcome => ?_
    cases outcome with
    | error fault => exact .fail fault
    | ok limit => exact .fail (.user limit.compact)
  obtain ⟨-, halike⟩ := linking_does_not_depend_on_the_order hpackage hdistinct
    (by decide +kernel) (by decide +kernel) hinert (.refl _) (List.reverse_perm rivalBlueprints)
  have hlinked : (rivalSystem rivalBlueprints).1.toOption = some [0, 1] := by decide +kernel
  have hlinked' : (rivalSystem rivalBlueprints.reverse).1.toOption = some [0, 1] := by
    decide +kernel
  exact ⟨hlinked, hlinked', by decide +kernel, by decide +kernel,
    halike (eq_of_fst_toOption hlinked) (eq_of_fst_toOption hlinked')⟩

end Watchtower.Linking
