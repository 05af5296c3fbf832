-- Rejections and the other declarations. What is accepted is checked and lowered by itself, but for
-- the index of the root namespaces, which holds the rejected ones too. So the rejected declarations
-- can be taken out without a trace exactly where the accepted monitors are told the same without
-- them.
import Mathlib.Data.List.Basic
import Watchtower.Proofs.Blueprint.Monitor
import Watchtower.Proofs.Report
import Watchtower.Proofs.Route

namespace Watchtower

open Source (Declaration MonitorItem SourceUnit)

/-! ## The index -/

/-- The second index tells a monitor what the first does: it knows the namespaces that the monitor
uses, and gives each of its change events the same route. -/
structure SpaceIndex.TellsAlike (index index' : SpaceIndex) (package : Option String)
    (decl : Source.Monitor) : Prop where
  usings : ∀ space ∈ decl.usings, index'.contains space
  routes : ∀ event emitter specifier span,
    .event ⟨event, .typed .change emitter specifier, span⟩ ∈ decl.body →
      Route.ofEmitter? (Source.qualify package decl.name) event emitter index' =
        Route.ofEmitter? (Source.qualify package decl.name) event emitter index

/-! ## Checks -/

theorem foldlM_checkUsing_contains {index : SpaceIndex} {monitor : String}
    {usings seen seen' : List String}
    (h : usings.foldlM (Members.checkUsing index monitor) seen = .ok seen') :
    ∀ space ∈ usings, index.contains space := by
  induction usings generalizing seen with
  | nil => simp
  | cons first rest ih =>
    rw [List.foldlM_cons] at h
    obtain ⟨between, hfirst, hrest⟩ := bind_eq_ok.mp h
    unfold Members.checkUsing at hfirst
    split at hfirst
    · rename_i hknown
      intro space hspace
      rcases List.mem_cons.mp hspace with rfl | hspace
      · exact hknown
      · exact ih hrest space hspace
    · cases hfirst

/-- All that a check asks of an index is whether it knows the used namespaces. -/
theorem foldlM_checkUsing_congr {index index' : SpaceIndex} {monitor : String}
    {usings : List String} (h : ∀ space ∈ usings, index.contains space)
    (h' : ∀ space ∈ usings, index'.contains space) (seen : List String) :
    usings.foldlM (Members.checkUsing index' monitor) seen =
      usings.foldlM (Members.checkUsing index monitor) seen := by
  induction usings generalizing seen with
  | nil => rfl
  | cons first rest ih =>
    have hfirst : Members.checkUsing index' monitor seen first =
        Members.checkUsing index monitor seen first := by
      unfold Members.checkUsing
      rw [if_pos (h first (by simp)), if_pos (h' first (by simp))]
    rw [List.foldlM_cons, List.foldlM_cons, hfirst]
    congr 1
    funext between
    exact ih (fun space hspace => h space (by simp [hspace]))
      (fun space hspace => h' space (by simp [hspace])) between

/-- A monitor that passes its checks with one index passes them with another that knows the
namespaces which it uses, and with no other. -/
theorem checkMonitor_iff {index index' : SpaceIndex} {decl : Source.Monitor}
    (h : Members.checkMonitor index decl = .ok ()) :
    Members.checkMonitor index' decl = .ok () ↔ ∀ space ∈ decl.usings, index'.contains space := by
  constructor
  · intro hcheck
    obtain ⟨seen, husings, -⟩ := bind_eq_ok.mp hcheck
    exact foldlM_checkUsing_contains husings
  · intro hknown
    obtain ⟨seen, husings, -⟩ := bind_eq_ok.mp h
    unfold Members.checkMonitor
    rw [foldlM_checkUsing_congr (foldlM_checkUsing_contains husings) hknown]
    exact h

/-! ## Lowering -/

section Lowering

variable {name type : String} {index index' : SpaceIndex}

/-- All that the lowering of a statement asks of an index is the route of a change event. -/
theorem add_congr {item : MonitorItem} (parts : MonitorParts)
    (h : ∀ event emitter specifier span,
      item = .event ⟨event, .typed .change emitter specifier, span⟩ →
        Route.ofEmitter? name event emitter index' = Route.ofEmitter? name event emitter index) :
    parts.add ⟨name, type, index'⟩ item = parts.add ⟨name, type, index⟩ item := by
  rcases item with decl | ⟨event, cron | ⟨occurrence, emitter, specifier⟩, span⟩ | decl | source
  · rfl
  · rfl
  · cases occurrence with
    | change =>
      simp only [MonitorParts.add, lowerEvent]
      rw [h event emitter specifier span rfl]
      rfl
    | _ => cases specifier <;> rfl
  · rfl
  · rfl

theorem foldlM_add_congr {items : List MonitorItem} (parts : MonitorParts)
    (h : ∀ event emitter specifier span,
      .event ⟨event, .typed .change emitter specifier, span⟩ ∈ items →
        Route.ofEmitter? name event emitter index' = Route.ofEmitter? name event emitter index) :
    items.foldlM (MonitorParts.add ⟨name, type, index'⟩) parts =
      items.foldlM (MonitorParts.add ⟨name, type, index⟩) parts := by
  induction items generalizing parts with
  | nil => rfl
  | cons item rest ih =>
    have hfirst : parts.add ⟨name, type, index'⟩ item = parts.add ⟨name, type, index⟩ item :=
      add_congr parts fun event emitter specifier span heq =>
        h event emitter specifier span (by simp [heq])
    rw [List.foldlM_cons, List.foldlM_cons, hfirst]
    congr 1
    funext between
    exact ih between fun event emitter specifier span hmem =>
      h event emitter specifier span (by simp [hmem])

/-! ## Exchanges -/

/-- The exchange on which the type of a change event listens. -/
def listensOn? (b : Blueprint) : Option String :=
  match b.kind, b.constructor with
  | .changeEvent .., [.guarded _ [.startConsumer exchange _ _ _]] => some exchange
  | _, _ => none

/-- The exchange that an index gives to a change event. -/
def exchangeIn? (name : String) (index : SpaceIndex) : MonitorItem → Option String
  | .event ⟨event, .typed .change emitter _, _⟩ =>
    (Route.ofEmitter? name event emitter index).map (·.exchange)
  | _ => none

/-- A statement adds the exchange that the index gives to it. -/
theorem add_exchanges {before after : MonitorParts} {item : MonitorItem}
    (h : before.add ⟨name, type, index⟩ item = .ok after) :
    after.nested.filterMap listensOn? =
      before.nested.filterMap listensOn? ++ (exchangeIn? name index item).toList := by
  rcases item with decl | ⟨event, cron | ⟨occurrence, emitter, specifier⟩, span⟩ | decl | source
  · cases h
    simp [exchangeIn?]
  · cases h
    simp [exchangeIn?]
  · obtain ⟨⟨field, made, names⟩, hlow, hok⟩ := bind_eq_ok.mp h
    cases hok
    obtain ⟨-, htype, hsome⟩ := lowerEvent_eq hlow
    obtain ⟨b, rfl⟩ := hsome rfl
    have hof := htype b rfl
    cases hof with
    | change hroute hpredicate => simp [exchangeIn?, hroute, listensOn?, Blueprint.ofChange]
    | probe hoccurrence =>
      cases occurrence with
      | change => exact absurd rfl hoccurrence
      | _ => simp [exchangeIn?, listensOn?, Blueprint.ofProbe]
  · simp only [MonitorParts.add] at h
    split at h
    · cases h
    · cases h
      rename_i kind hkind
      by_cases hinterval : kind = .interval
      · simp [exchangeIn?, listensOn?, Blueprint.ofHandler, hinterval]
      · simp [exchangeIn?, listensOn?, Blueprint.ofHandler, hinterval]
  · cases h
    simp [exchangeIn?]

theorem foldlM_add_exchanges {items : List MonitorItem} {before after : MonitorParts}
    (h : items.foldlM (MonitorParts.add ⟨name, type, index⟩) before = .ok after) :
    after.nested.filterMap listensOn? =
      before.nested.filterMap listensOn? ++ items.filterMap (exchangeIn? name index) := by
  induction items generalizing before with
  | nil =>
    cases h
    simp
  | cons item rest ih =>
    rw [List.foldlM_cons] at h
    obtain ⟨between, hfirst, hrest⟩ := bind_eq_ok.mp h
    rw [ih hrest, add_exchanges hfirst, List.append_assoc]
    congr 1
    cases hexchange : exchangeIn? name index item with
    | none => rw [List.filterMap_cons_none hexchange]; rfl
    | some exchange => rw [List.filterMap_cons_some hexchange]; rfl

end Lowering

/-- Where two functions give something for the same items and all of it is the same, they give the
same for each item. -/
theorem eq_of_filterMap_eq {α β : Type} {f g : α → Option β} {items : List α}
    (hsome : ∀ a ∈ items, (f a).isSome = (g a).isSome) (h : items.filterMap f = items.filterMap g) :
    ∀ a ∈ items, f a = g a := by
  induction items with
  | nil => simp
  | cons first rest ih =>
    have hrest : ∀ a ∈ rest, (f a).isSome = (g a).isSome := fun a ha => hsome a (by simp [ha])
    have hfirst := hsome first (by simp)
    intro a ha
    cases hf : f first with
    | none =>
      have hg : g first = none := by simpa [hf] using hfirst.symm
      rw [List.filterMap_cons_none hf, List.filterMap_cons_none hg] at h
      rcases List.mem_cons.mp ha with rfl | ha
      · rw [hf, hg]
      · exact ih hrest h a ha
    | some b =>
      obtain ⟨b', hg⟩ : ∃ b', g first = some b' := by
        rw [hf, Option.isSome_some] at hfirst
        exact Option.isSome_iff_exists.mp hfirst.symm
      rw [List.filterMap_cons_some hf, List.filterMap_cons_some hg, List.cons.injEq] at h
      rcases List.mem_cons.mp ha with rfl | ha
      · rw [hf, hg, h.1]
      · exact ih hrest h.2 a ha

/-- A monitor is lowered alike with two indexes exactly where they give its change events the same
routes. -/
theorem ofMonitor_iff {package : Option String} {index index' : SpaceIndex} {decl : Source.Monitor}
    {b : Blueprint} (h : Blueprint.ofMonitor package index decl = .ok b) :
    Blueprint.ofMonitor package index' decl = .ok b ↔
      ∀ event emitter specifier span,
        .event ⟨event, .typed .change emitter specifier, span⟩ ∈ decl.body →
          Route.ofEmitter? (Source.qualify package decl.name) event emitter index' =
            Route.ofEmitter? (Source.qualify package decl.name) event emitter index := by
  constructor
  · intro h' event emitter specifier span hmem
    obtain ⟨parts, hparts, hok⟩ := bind_eq_ok.mp h
    obtain ⟨parts', hparts', hok'⟩ := bind_eq_ok.mp h'
    have hnested : parts'.nested = parts.nested := by
      have hb : b.nested = parts.nested := by
        cases hok
        rfl
      have hb' : b.nested = parts'.nested := by
        cases hok'
        rfl
      rw [← hb', hb]
    have hlists : decl.body.filterMap (exchangeIn? (Source.qualify package decl.name) index') =
        decl.body.filterMap (exchangeIn? (Source.qualify package decl.name) index) := by
      have hall := foldlM_add_exchanges hparts
      have hall' := foldlM_add_exchanges hparts'
      rw [hnested, hall] at hall'
      simpa using hall'.symm
    -- Whether an emitter has a route does not hang on the index.
    have hsome : ∀ item ∈ decl.body,
        (exchangeIn? (Source.qualify package decl.name) index' item).isSome =
          (exchangeIn? (Source.qualify package decl.name) index item).isSome := by
      intro item _
      unfold exchangeIn?
      split
      · rw [Route.ofEmitter?_eq, Route.ofEmitter?_eq]
        split <;> rfl
      · rfl
    have hsame := eq_of_filterMap_eq hsome hlists _ hmem
    simp only [exchangeIn?] at hsame
    rw [Route.ofEmitter?_eq, Route.ofEmitter?_eq] at hsame ⊢
    split
    · rfl
    · rename_i hsegments
      simp only [hsegments, Option.map_some, Option.some.injEq] at hsame ⊢
      rw [hsame]
  · intro hroutes
    rw [← h]
    unfold Blueprint.ofMonitor
    simp only []
    rw [foldlM_add_congr _ hroutes]

/-- An accepted declaration is accepted alike with another index where that tells the same, if it
is a monitor. -/
theorem outcome_iff {package : Option String} {index index' : SpaceIndex} {decl : Declaration}
    {b : Blueprint} (h : Report.outcome true package index decl = .ok b) :
    Report.outcome true package index' decl = .ok b ↔
      ∀ monitor, decl = .monitor monitor → index.TellsAlike index' package monitor := by
  obtain ⟨hcheck, hlower⟩ := outcome_eq_ok.mp h
  rw [outcome_eq_ok]
  cases decl with
  | space decl => exact ⟨fun _ _ => nofun, fun _ => ⟨hcheck, hlower⟩⟩
  | monitor decl =>
    show Members.checkMonitor index' decl = .ok () ∧
      Blueprint.ofMonitor package index' decl = .ok b ↔ _
    rw [checkMonitor_iff hcheck, ofMonitor_iff hlower]
    constructor
    · rintro ⟨husings, hroutes⟩ monitor ⟨⟩
      exact ⟨husings, hroutes⟩
    · intro hall
      exact ⟨(hall decl rfl).usings, (hall decl rfl).routes⟩

/-! ## Reports -/

/-- The declarations of some units, each with its package. -/
def placedDeclarations (units : List SourceUnit) : List (Option String × Declaration) :=
  units.flatMap fun unit => unit.declarations.map fun decl => (unit.package, decl)

/-- A declaration of a package is accepted with an index. -/
def isAccepted (index : SpaceIndex) (placed : Option String × Declaration) : Bool :=
  (Report.outcome true placed.1 index placed.2).isOk

/-- The units without the declarations that are rejected. -/
def withoutRejected (units : List SourceUnit) : List SourceUnit :=
  units.map fun unit => { unit with
    declarations := unit.declarations.filter fun decl =>
      isAccepted (SpaceIndex.ofUnits units) (unit.package, decl) }

theorem placedDeclarations_withoutRejected (units : List SourceUnit) :
    placedDeclarations (withoutRejected units) =
      (placedDeclarations units).filter (isAccepted (SpaceIndex.ofUnits units)) := by
  unfold placedDeclarations withoutRejected
  rw [List.flatMap_map, List.filter_flatMap]
  congr 1
  funext unit
  rw [List.filter_map]
  rfl

theorem blueprints_eq_filterMap (units : List SourceUnit) :
    (Report.ofUnits units true).blueprints = (placedDeclarations units).filterMap fun placed =>
      (Report.outcome true placed.1 (SpaceIndex.ofUnits units) placed.2).toOption := by
  rw [blueprints_eq_flatMap]
  unfold placedDeclarations lowerAll
  rw [List.filterMap_flatMap]
  congr 1
  funext unit
  rw [List.filterMap_map]
  rfl

theorem failures_eq_nil_iff (units : List SourceUnit) :
    (Report.ofUnits units true).failures = [] ↔
      ∀ placed ∈ placedDeclarations units, isAccepted (SpaceIndex.ofUnits units) placed := by
  unfold Report.failures Report.ofUnits placedDeclarations isAccepted
  simp only [List.filterMap_eq_nil_iff, List.mem_flatMap, List.mem_map]
  constructor
  · rintro hnone placed ⟨unit, hunit, decl, hdecl, rfl⟩
    have hout := hnone _ ⟨unit, hunit, decl, hdecl, rfl⟩
    revert hout
    cases Report.outcome true unit.package (SpaceIndex.ofUnits units) decl with
    | ok b => exact fun _ => rfl
    | error rejection => exact fun hout => by cases hout
  · rintro hall outcome ⟨unit, hunit, decl, hdecl, rfl⟩
    have hok := hall _ ⟨unit, hunit, decl, hdecl, rfl⟩
    revert hok
    simp only []
    cases Report.outcome true unit.package (SpaceIndex.ofUnits units) decl with
    | ok b => exact fun _ => rfl
    | error rejection => exact fun hok => by cases hok

/-- Of results that are all there, others are the same exactly where they are all there and what
they hold is the same. -/
theorem results_eq_iff {α ε β : Type} {f g : α → Except ε β} {items : List α}
    (hf : ∀ a ∈ items, (f a).isOk) :
    ((∀ a ∈ items, (g a).isOk) ∧
        items.filterMap (fun a => (g a).toOption) = items.filterMap fun a => (f a).toOption) ↔
      ∀ a ∈ items, g a = f a := by
  have hsome : ∀ result : Except ε β, result.toOption.isSome = result.isOk := by
    rintro (e | b) <;> rfl
  constructor
  · rintro ⟨hg, hlists⟩ a ha
    have hsame := eq_of_filterMap_eq (fun a ha => by rw [hsome, hsome, hf a ha, hg a ha])
      hlists a ha
    have hfa := hf a ha
    have hga := hg a ha
    revert hsame hfa hga
    cases f a with
    | error e => exact fun _ hfa => by cases hfa
    | ok b =>
      cases g a with
      | error e => exact fun _ _ hga => by cases hga
      | ok b' =>
        intro hsame _ _
        rw [Option.some.inj hsame]
  · intro hall
    refine ⟨fun a ha => by rw [hall a ha]; exact hf a ha, ?_⟩
    exact List.filterMap_congr fun a ha => by rw [hall a ha]

/-- The rejected declarations can be taken out without a trace, so that nothing more is rejected and
the same blueprints are accepted in the same order, exactly where the root namespaces that remain
tell each accepted monitor what all of them tell it. -/
theorem rejections_are_isolated_where_the_index_tells_alike (units : List SourceUnit) :
    ((Report.ofUnits (withoutRejected units) true).failures = [] ∧
        (Report.ofUnits (withoutRejected units) true).blueprints =
          (Report.ofUnits units true).blueprints) ↔
      ∀ unit ∈ units, ∀ decl, .monitor decl ∈ unit.declarations →
        (Report.outcome true unit.package (SpaceIndex.ofUnits units) (.monitor decl)).isOk →
          (SpaceIndex.ofUnits units).TellsAlike (SpaceIndex.ofUnits (withoutRejected units))
            unit.package decl := by
  generalize hindex' : SpaceIndex.ofUnits (withoutRejected units) = index'
  have hkept := placedDeclarations_withoutRejected units
  -- Both reports are about the accepted declarations, one with each index.
  have hbefore : (Report.ofUnits units true).blueprints =
      (placedDeclarations (withoutRejected units)).filterMap fun placed =>
        (Report.outcome true placed.1 (SpaceIndex.ofUnits units) placed.2).toOption := by
    rw [blueprints_eq_filterMap, hkept, List.filterMap_filter]
    apply List.filterMap_congr
    intro placed _
    unfold isAccepted
    cases Report.outcome true placed.1 (SpaceIndex.ofUnits units) placed.2 <;> rfl
  rw [failures_eq_nil_iff, hbefore, blueprints_eq_filterMap, hindex']
  have hall : ∀ placed ∈ placedDeclarations (withoutRejected units),
      (Report.outcome true placed.1 (SpaceIndex.ofUnits units) placed.2).isOk := by
    intro placed hplaced
    rw [hkept] at hplaced
    exact (List.mem_filter.mp hplaced).2
  refine (results_eq_iff hall).trans ?_
  constructor
  · intro hsame unit hunit decl hdecl hok
    obtain ⟨b, hb⟩ : ∃ b, Report.outcome true unit.package (SpaceIndex.ofUnits units)
        (.monitor decl) = .ok b := by
      cases hout : Report.outcome true unit.package (SpaceIndex.ofUnits units) (.monitor decl) with
      | ok b => exact ⟨b, rfl⟩
      | error rejection =>
        rw [hout] at hok
        cases hok
    have hmem : (unit.package, .monitor decl) ∈ placedDeclarations (withoutRejected units) := by
      rw [hkept, List.mem_filter]
      refine ⟨List.mem_flatMap.mpr ⟨unit, hunit, List.mem_map.mpr ⟨_, hdecl, rfl⟩⟩, hok⟩
    exact (outcome_iff hb).mp ((hsame _ hmem).trans hb) decl rfl
  · intro htells placed hplaced
    rw [hkept, List.mem_filter] at hplaced
    obtain ⟨hdeclared, hok⟩ := hplaced
    obtain ⟨unit, hunit, hmem⟩ := List.mem_flatMap.mp hdeclared
    obtain ⟨decl, hdecl, rfl⟩ := List.mem_map.mp hmem
    unfold isAccepted at hok
    cases hout : Report.outcome true unit.package (SpaceIndex.ofUnits units) decl with
    | error rejection =>
      simp only [hout] at hok
      cases hok
    | ok b =>
      refine (outcome_iff hout).mpr fun monitor heq => ?_
      subst heq
      exact htells unit hunit monitor hdecl (by rw [hout]; rfl)

/-- A namespace that is rejected, and a monitor that uses it. -/
def strandedUnits : List SourceUnit :=
  [{ package := some "demo"
     declarations := [
       .space ⟨"cpu", [.variable ⟨"new", none, .literal (.number "0"), false⟩], none⟩,
       .monitor ⟨"Watch", ["cpu"], [], none⟩] }]

/-- A monitor is accepted for the sake of a namespace that is rejected, and is rejected itself when
that is taken out. -/
theorem a_monitor_is_accepted_for_a_rejected_namespace :
    (Report.ofUnits strandedUnits true).accepted = ["demo.Watch"] ∧
      ¬ ((Report.ofUnits (withoutRejected strandedUnits) true).failures = [] ∧
        (Report.ofUnits (withoutRejected strandedUnits) true).blueprints =
          (Report.ofUnits strandedUnits true).blueprints) := by
  have hfailures : (Report.ofUnits (withoutRejected strandedUnits) true).failures =
      [⟨"demo.Watch", .unknownNamespace "Watch" "cpu"⟩] := by decide +kernel
  refine ⟨by decide +kernel, fun h => ?_⟩
  rw [hfailures] at h
  cases h.1

end Watchtower
