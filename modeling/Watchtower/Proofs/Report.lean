-- Accepted declarations. A declaration is accepted when it passes its checks and can be lowered,
-- and a report has the blueprints of the accepted declarations in their order.
import Watchtower.Proofs.Outcome
import Watchtower.Report

namespace Watchtower

open Source (Declaration SourceUnit)

theorem outcome_eq_ok {package : Option String} {index : SpaceIndex} {decl : Declaration}
    {b : Blueprint} : Report.outcome true package index decl = .ok b ↔
      Members.check index decl = .ok () ∧ Blueprint.ofDeclaration package index decl = .ok b := by
  show (Members.check index decl >>= fun _ => Blueprint.ofDeclaration package index decl) = _ ↔ _
  rw [bind_eq_ok]
  constructor
  · rintro ⟨⟨⟩, hcheck, hlower⟩
    exact ⟨hcheck, hlower⟩
  · rintro ⟨hcheck, hlower⟩
    exact ⟨(), hcheck, hlower⟩

/-- The blueprints of the declarations that are accepted. -/
def lowerAll (package : Option String) (index : SpaceIndex) (decls : List Declaration) :
    List Blueprint :=
  decls.filterMap fun decl => (Report.outcome true package index decl).toOption

section Lowering

variable {package : Option String} {index : SpaceIndex} {first : Declaration}
  {rest : List Declaration}

theorem lowerAll_cons_of_error {rejection : Rejection}
    (h : Report.outcome true package index first = .error rejection) :
    lowerAll package index (first :: rest) = lowerAll package index rest := by
  unfold lowerAll
  exact List.filterMap_cons_none (by rw [h]; rfl)

theorem lowerAll_cons_of_ok {b : Blueprint}
    (h : Report.outcome true package index first = .ok b) :
    lowerAll package index (first :: rest) = b :: lowerAll package index rest := by
  unfold lowerAll
  exact List.filterMap_cons_some (by rw [h]; rfl)

theorem mem_lowerAll {decls : List Declaration} {b : Blueprint} :
    b ∈ lowerAll package index decls ↔
      ∃ decl ∈ decls, Report.outcome true package index decl = .ok b := by
  unfold lowerAll
  simp only [List.mem_filterMap, toOption_eq_some_iff]

end Lowering

/-- A report lowers unit by unit. -/
theorem blueprints_eq_flatMap (units : List SourceUnit) :
    (Report.ofUnits units true).blueprints = units.flatMap fun unit =>
      lowerAll unit.package (SpaceIndex.ofUnits units) unit.declarations := by
  unfold Report.ofUnits Report.blueprints lowerAll
  rw [List.filterMap_flatMap]
  congr 1
  funext unit
  rw [List.filterMap_map]
  congr 1
  funext decl
  simp only [Function.comp_apply]
  cases Report.outcome true unit.package (SpaceIndex.ofUnits units) decl with
  | ok b => rfl
  | error rejection => rfl

/-- The accepted blueprints are those of the declarations that pass their checks and can be
lowered. -/
theorem mem_blueprints {units : List SourceUnit} {b : Blueprint} :
    b ∈ (Report.ofUnits units true).blueprints ↔ ∃ unit ∈ units, ∃ decl ∈ unit.declarations,
      Report.outcome true unit.package (SpaceIndex.ofUnits units) decl = .ok b := by
  simp only [blueprints_eq_flatMap, List.mem_flatMap, mem_lowerAll]

/-- Units of one package are lowered declaration by declaration. -/
theorem blueprints_ofUnits {units : List SourceUnit} {package : Option String}
    (hpackage : ∀ unit ∈ units, unit.package = package) :
    (Report.ofUnits units true).blueprints =
      lowerAll package (SpaceIndex.ofUnits units) (units.flatMap (·.declarations)) := by
  have hunits : ∀ unit ∈ units,
      lowerAll unit.package (SpaceIndex.ofUnits units) unit.declarations =
        lowerAll package (SpaceIndex.ofUnits units) unit.declarations := by
    intro unit hunit
    rw [hpackage unit hunit]
  rw [blueprints_eq_flatMap]
  unfold List.flatMap
  rw [List.map_congr_left hunits]
  unfold lowerAll
  rw [List.filterMap_flatten, List.map_map]
  rfl

end Watchtower
