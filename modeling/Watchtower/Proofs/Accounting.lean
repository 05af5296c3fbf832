-- Reports account for declarations one by one. All that declarations share is the index of the root
-- namespaces, and monitors are not in it, so a monitor can be taken out and nothing is said
-- otherwise of any other declaration.
import Watchtower.Proofs.Isolation

namespace Watchtower

open Source (Declaration SourceUnit SpaceItem)

/-! ## What a declaration is lowered to -/

/-- What the blueprint of a declaration stands for. -/
def Source.Declaration.blueprintKind : Declaration → BlueprintKind
  | .monitor _ => .monitor
  | .space decl => .namespaceProxy decl.name decl.name

/-- The qualified name of the blueprint of a declaration. That of a namespace is canonical. -/
def Source.Declaration.blueprintName (package : Option String) : Declaration → String
  | .monitor decl => Source.qualify package decl.name
  | .space decl => Source.qualify package (Naming.pascal decl.name)

/-- A declaration is lowered to this blueprint, which stands for it and has its names. -/
structure IsLowered (package : Option String) (index : SpaceIndex) (decl : Declaration)
    (b : Blueprint) : Prop where
  lowered : Blueprint.ofDeclaration package index decl = .ok b
  name : b.name = Naming.pascal decl.name
  qualifiedName : b.qualifiedName = decl.blueprintName package
  kind : b.kind = decl.blueprintKind

theorem isLowered_of_ofDeclaration {package : Option String} {index : SpaceIndex}
    {decl : Declaration} {b : Blueprint} (h : Blueprint.ofDeclaration package index decl = .ok b) :
    IsLowered package index decl b := by
  cases decl with
  | space decl =>
    cases h
    exact ⟨rfl, rfl, rfl, rfl⟩
  | monitor decl =>
    obtain ⟨parts, -, hparts⟩ := bind_eq_ok.mp h
    cases hparts
    exact ⟨h, rfl, rfl, rfl⟩

theorem outcome_ok_iff {validate : Bool} {package : Option String} {index : SpaceIndex}
    {decl : Declaration} {b : Blueprint} :
    Report.outcome validate package index decl = .ok b ↔
      (validate → Members.check index decl = .ok ()) ∧
        Blueprint.ofDeclaration package index decl = .ok b := by
  cases validate with
  | true => simpa using outcome_eq_ok
  | false => simp [Report.outcome]

/-! ## Accounts -/

/-- Names that were accepted, blueprints and rejections, told apart as they are merged back in the
order of the declarations: each declaration either has the next name and the next blueprint, which
it was lowered to, or the next rejection. -/
inductive Accounts (validate : Bool) (index : SpaceIndex) :
    List (Option String × Declaration) → List String → List Blueprint → List LoweringFailure → Prop
  | nil : Accounts validate index [] [] [] []
  | accepted {package : Option String} {decl : Declaration} {b : Blueprint}
      {placed : List (Option String × Declaration)} {names : List String} {bs : List Blueprint}
      {failures : List LoweringFailure}
      (checked : validate → Members.check index decl = .ok ())
      (lowered : IsLowered package index decl b)
      (rest : Accounts validate index placed names bs failures) :
      Accounts validate index ((package, decl) :: placed)
        (Source.qualify package decl.name :: names) (b :: bs) failures
  | rejected {package : Option String} {decl : Declaration} {rejection : Rejection}
      {placed : List (Option String × Declaration)} {names : List String} {bs : List Blueprint}
      {failures : List LoweringFailure}
      (outcome : Report.outcome validate package index decl = .error rejection)
      (rest : Accounts validate index placed names bs failures) :
      Accounts validate index ((package, decl) :: placed) names bs
        (⟨Source.qualify package decl.name, rejection⟩ :: failures)

theorem outcomes_ofUnits (units : List SourceUnit) (validate : Bool) :
    (Report.ofUnits units validate).outcomes = (placedDeclarations units).map fun placed =>
      (Source.qualify placed.1 placed.2.name,
        Report.outcome validate placed.1 (SpaceIndex.ofUnits units) placed.2) := by
  have hunit : ∀ unit : SourceUnit,
      (unit.declarations.map fun decl => (unit.qualify decl.name,
        Report.outcome validate unit.package (SpaceIndex.ofUnits units) decl)) =
      (unit.declarations.map fun decl => (unit.package, decl)).map fun placed =>
        (Source.qualify placed.1 placed.2.name,
          Report.outcome validate placed.1 (SpaceIndex.ofUnits units) placed.2) := by
    intro unit
    rw [List.map_map]
    rfl
  simp only [Report.ofUnits, placedDeclarations, List.map_flatMap, hunit]

theorem accounts_of_outcomes (validate : Bool) (index : SpaceIndex)
    (placed : List (Option String × Declaration)) {r : Report}
    (h : r.outcomes = placed.map fun placed => (Source.qualify placed.1 placed.2.name,
      Report.outcome validate placed.1 index placed.2)) :
    Accounts validate index placed r.accepted r.blueprints r.failures := by
  unfold Report.accepted Report.blueprints Report.failures
  rw [h]
  clear h
  induction placed with
  | nil => exact .nil
  | cons first rest ih =>
    obtain ⟨package, decl⟩ := first
    cases hout : Report.outcome validate package index decl with
    | ok b =>
      obtain ⟨hchecked, hlowered⟩ := outcome_ok_iff.mp hout
      simp only [List.map_cons, hout, List.filterMap_cons]
      exact .accepted hchecked (isLowered_of_ofDeclaration hlowered) ih
    | error rejection =>
      simp only [List.map_cons, hout, List.filterMap_cons]
      exact .rejected hout ih

/-! ## Without a monitor -/

theorem placedDeclarations_append (us vs : List SourceUnit) :
    placedDeclarations (us ++ vs) = placedDeclarations us ++ placedDeclarations vs :=
  List.flatMap_append

theorem placedDeclarations_cons (package : Option String) (decls : List Declaration)
    (us : List SourceUnit) : placedDeclarations (⟨package, decls⟩ :: us) =
      decls.map (fun decl => (package, decl)) ++ placedDeclarations us :=
  List.flatMap_cons

/-- The index is made of the namespaces only. -/
theorem ofUnits_without_monitor (before after : List SourceUnit) (package : Option String)
    (front back : List Declaration) (m : Source.Monitor) :
    SpaceIndex.ofUnits (before ++ ⟨package, front ++ .monitor m :: back⟩ :: after) =
      SpaceIndex.ofUnits (before ++ ⟨package, front ++ back⟩ :: after) := by
  have hroots : SpaceIndex.rootsOf ⟨package, front ++ .monitor m :: back⟩ =
      SpaceIndex.rootsOf ⟨package, front ++ back⟩ := by
    unfold SpaceIndex.rootsOf
    rw [List.filterMap_append, List.filterMap_append, List.filterMap_cons_none rfl]
    rfl
  unfold SpaceIndex.ofUnits
  rw [List.flatMap_append, List.flatMap_append, List.flatMap_cons, List.flatMap_cons, hroots]

/-! ## The law -/

/-- The declarations of any units are accounted for one by one, checked or not: merged back, the
names that were accepted and the rejections are the declarations in their order, and there is a
blueprint for each name that was accepted, lowered from this very declaration. And where a monitor
is taken out of its unit, its own outcome is missing, and the outcomes of all others are the same:
their names, their blueprints and their rejections. -/
theorem declarations_are_accounted_for_one_by_one (validate : Bool) :
    (∀ units : List SourceUnit,
      Accounts validate (SpaceIndex.ofUnits units) (placedDeclarations units)
        (Report.ofUnits units validate).accepted (Report.ofUnits units validate).blueprints
        (Report.ofUnits units validate).failures) ∧
    ∀ (before after : List SourceUnit) (package : Option String) (front back : List Declaration)
      (m : Source.Monitor), ∃ left right outcome,
        left.length = (placedDeclarations before).length + front.length ∧
        (Report.ofUnits (before ++ ⟨package, front ++ .monitor m :: back⟩ :: after)
          validate).outcomes = left ++ (Source.qualify package m.name, outcome) :: right ∧
        (Report.ofUnits (before ++ ⟨package, front ++ back⟩ :: after) validate).outcomes =
          left ++ right := by
  constructor
  · exact fun units => accounts_of_outcomes validate _ _ (outcomes_ofUnits units validate)
  · intro before after package front back m
    simp only [outcomes_ofUnits, ofUnits_without_monitor, placedDeclarations_append,
      placedDeclarations_cons, List.map_append, List.map_cons, List.append_assoc, List.cons_append]
    rw [← List.append_assoc, ← List.append_assoc]
    exact ⟨_, _, _, by simp, rfl, rfl⟩

/-- A monitor whose event has no variable to watch, between a monitor and a namespace. -/
def brokenUnit : SourceUnit := ⟨some "demo", [
  .monitor ⟨"Good", [], [], none⟩,
  .monitor ⟨"Bad", [], [.event ⟨"nowhere", .typed .change (.source "") none, none⟩], none⟩,
  .space ⟨"cpu", [], none⟩]⟩

-- What cannot be lowered stops nothing else, and is told by its name.
example : (Report.ofUnits [brokenUnit] true).accepted = ["demo.Good", "demo.cpu"] ∧
    (Report.ofUnits [brokenUnit] true).blueprints.map (·.qualifiedName) =
      ["demo.Good", "demo.Cpu"] ∧
    (Report.ofUnits [brokenUnit] true).failures.map (·.declaration) = ["demo.Bad"] := by
  decide +kernel

end Watchtower
