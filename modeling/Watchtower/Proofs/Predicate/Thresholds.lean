-- Thresholds of a specifier: which specifiers can be lowered at all, what the thresholds of one
-- that can are named and hold, and which literal is to blame when one cannot.
import Mathlib.Data.List.Forall2
import Watchtower.Proofs.Predicate.Lowering

namespace Watchtower

open Source (Expr Specifier)

/-! ## Literals that write decimals -/

/-- What the leaves of a specifier compare with, from left to right. -/
def Source.Specifier.values : Specifier → List Expr
  | .leaf _ value _ => [value]
  | .node _ left right => left.values ++ right.values

/-- The expression is a number or a text, and writes the decimal between blanks. -/
def Source.Expr.Writes (value : Expr) (d : Decimal) : Prop :=
  ∃ text, (value = .literal (.number text) ∨ value = .literal (.string text)) ∧
    Decimal.ofText? (Text.trim text) = some d

theorem Source.Expr.decimal?_eq_some {value : Expr} {d : Decimal} :
    value.decimal? = some d ↔ value.Writes d := by
  rcases value with (text | text | _ | _) | _ | _ | _ <;> simp [decimal?, Writes]

theorem Source.Expr.isNone_decimal? {value : Expr} :
    value.decimal?.isNone = true ↔ ¬ ∃ d, value.Writes d := by
  rw [Option.isNone_iff_eq_none, Option.eq_none_iff_forall_ne_some, not_exists]
  simp only [ne_eq, decimal?_eq_some]

theorem thresholdValue_of_none {value : Expr} (h : value.decimal? = none) :
    thresholdValue value = .error (.invalidThreshold value.text) := by
  rcases value with (text | text | _ | _) | _ | _ | _
  · simp only [Source.Expr.decimal?] at h
    simp [thresholdValue, h]
  · simp only [Source.Expr.decimal?] at h
    simp [thresholdValue, h]
  all_goals rfl

/-! ## The first literal that does not -/

/-- The first value from the left that writes no decimal. -/
def Source.Specifier.misfit? (node : Specifier) : Option Expr :=
  node.values.find? (·.decimal?.isNone)

theorem Source.Specifier.misfit?_node (connective : Source.Connective) (left right : Specifier) :
    (Specifier.node connective left right).misfit? = left.misfit?.or right.misfit? :=
  List.find?_append

theorem Source.Specifier.misfit?_eq_none {node : Specifier} :
    node.misfit? = none ↔ ∀ value ∈ node.values, ∃ d, value.Writes d := by
  simp only [misfit?, List.find?_eq_none, Expr.isNone_decimal?, Classical.not_not]

theorem Source.Specifier.misfit?_eq_some {node : Specifier} {value : Expr} :
    node.misfit? = some value ↔
      ∃ before after, node.values = before ++ value :: after ∧
        (∀ other ∈ before, ∃ d, other.Writes d) ∧ ¬ ∃ d, value.Writes d := by
  simp only [misfit?, List.find?_eq_some_iff_append, Bool.not_eq_true', Bool.eq_false_iff, ne_eq,
    Expr.isNone_decimal?, Classical.not_not]
  constructor
  · rintro ⟨hvalue, before, after, hsplit, hbefore⟩
    exact ⟨before, after, hsplit, hbefore, hvalue⟩
  · rintro ⟨before, after, hsplit, hbefore, hvalue⟩
    exact ⟨hvalue, before, after, hsplit, hbefore⟩

theorem ofSpecifier_of_fit (names : NameSupply) {node : Specifier} (h : node.misfit? = none) :
    Succeeds (CompiledSpecifier.ofSpecifier names node) := by
  induction node generalizing names with
  | leaf relation value percentage =>
    obtain ⟨d, hd⟩ := Source.Specifier.misfit?_eq_none.mp h value (List.mem_singleton_self _)
    rw [CompiledSpecifier.ofSpecifier,
      thresholdValue_eq_ok.mpr (Source.Expr.decimal?_eq_some.mpr hd)]
    exact succeeds_pure _
  | node connective left right ihl ihr =>
    rw [Source.Specifier.misfit?_node, Option.or_eq_none_iff] at h
    rw [CompiledSpecifier.ofSpecifier]
    exact (ihl _ h.1).bind fun _ => (ihr _ h.2).bind fun _ => succeeds_pure _

theorem ofSpecifier_of_misfit {names : NameSupply} {node : Specifier} {value : Expr}
    (h : node.misfit? = some value) :
    CompiledSpecifier.ofSpecifier names node = .error (.invalidThreshold value.text) := by
  induction node generalizing names with
  | leaf relation found percentage =>
    have hfound : found = value ∧ found.decimal? = none := by
      simpa [Source.Specifier.misfit?, Source.Specifier.values, and_comm] using h
    obtain ⟨rfl, hnone⟩ := hfound
    rw [CompiledSpecifier.ofSpecifier, thresholdValue_of_none hnone]
    rfl
  | node connective left right ihl ihr =>
    rw [Source.Specifier.misfit?_node, Option.or_eq_some_iff] at h
    rw [CompiledSpecifier.ofSpecifier]
    rcases h with hleft | ⟨hleft, hright⟩
    · rw [ihl hleft]
      rfl
    · -- The left side has taken its names from the supply before the right side fails.
      obtain ⟨⟨l, between⟩, hl⟩ := ofSpecifier_of_fit names hleft
      simp only [hl, bind, Except.bind, ihr hright]

/-! ## What the thresholds hold -/

theorem ofSpecifier_holds {names names' : NameSupply} {node : Specifier}
    {compiled : CompiledSpecifier}
    (h : CompiledSpecifier.ofSpecifier names node = .ok (compiled, names')) :
    List.Forall₂ (fun value threshold => Source.Expr.Writes value threshold.2)
      node.values compiled.thresholds := by
  induction node generalizing names names' compiled with
  | leaf relation value percentage =>
    obtain ⟨d, hd, -, rfl⟩ := ofSpecifier_leaf h
    exact .cons (Source.Expr.decimal?_eq_some.mp hd) .nil
  | node connective left right ihl ihr =>
    obtain ⟨l, between, r, hl, hr, rfl⟩ := ofSpecifier_node h
    exact List.rel_append (ihl hl) (ihr hr)

theorem Predicate.thresholds_joined (connective : Source.Connective) (left right : Predicate) :
    (Predicate.joined connective left right).thresholds = left.thresholds ++ right.thresholds := by
  simp [thresholds, tokens]

/-- The predicate names the thresholds in the order in which they are made. -/
theorem thresholds_predicate {names names' : NameSupply} {node : Specifier}
    {compiled : CompiledSpecifier}
    (h : CompiledSpecifier.ofSpecifier names node = .ok (compiled, names')) :
    compiled.predicate.thresholds = compiled.thresholds.map (·.1) := by
  induction node generalizing names names' compiled with
  | leaf relation value percentage =>
    obtain ⟨d, -, -, rfl⟩ := ofSpecifier_leaf h
    rfl
  | node connective left right ihl ihr =>
    obtain ⟨l, between, r, hl, hr, rfl⟩ := ofSpecifier_node h
    rw [Predicate.thresholds_joined, ihl hl, ihr hr, List.map_append]

/-! ## The law -/

theorem ofSpecifier_succeeds_iff {names : NameSupply} {node : Specifier} :
    Succeeds (CompiledSpecifier.ofSpecifier names node) ↔ node.misfit? = none := by
  refine ⟨fun ⟨result, hok⟩ => ?_, ofSpecifier_of_fit names⟩
  cases hmisfit : node.misfit? with
  | none => rfl
  | some value =>
    rw [ofSpecifier_of_misfit hmisfit] at hok
    cases hok

theorem ofSpecifier_eq_error {names : NameSupply} {node : Specifier} {rejection : Rejection} :
    CompiledSpecifier.ofSpecifier names node = .error rejection ↔
      ∃ value, node.misfit? = some value ∧ rejection = .invalidThreshold value.text := by
  constructor
  · intro h
    cases hmisfit : node.misfit? with
    | none =>
      obtain ⟨result, hok⟩ := ofSpecifier_of_fit names hmisfit
      rw [hok] at h
      cases h
    | some value =>
      rw [ofSpecifier_of_misfit hmisfit] at h
      cases h
      exact ⟨value, rfl, rfl⟩
  · rintro ⟨value, hmisfit, rfl⟩
    exact ofSpecifier_of_misfit hmisfit

/-- A specifier is lowered when each of its literals writes a decimal, whatever names were issued
before. Its thresholds then get the next numbers, hold these decimals and are named by its
predicate, all from left to right, and the supply goes on behind them. A specifier that is not
lowered is refused for the first literal that writes no decimal. -/
theorem a_specifier_numbers_its_literals_from_left_to_right (names : NameSupply)
    (node : Specifier) :
    (Succeeds (CompiledSpecifier.ofSpecifier names node) ↔
      ∀ value ∈ node.values, ∃ d, value.Writes d) ∧
    (∀ compiled names', CompiledSpecifier.ofSpecifier names node = .ok (compiled, names') →
      compiled.fields.map (·.name) =
          (List.range' (names.issued "threshold") node.values.length).map
            (NameSupply.numbered "threshold") ∧
        List.Forall₂ (fun value field => ∃ d, Expr.Writes value d ∧ field.init = some (.decimal d))
          node.values compiled.fields ∧
        compiled.predicate.thresholds = compiled.fields.map (·.name) ∧
        (Sorted.ofList (thresholdsOf compiled.fields)).length = node.values.length ∧
        names'.issued "threshold" = names.issued "threshold" + node.values.length) ∧
    ∀ rejection, CompiledSpecifier.ofSpecifier names node = .error rejection ↔
      ∃ before value after, node.values = before ++ value :: after ∧
        (∀ other ∈ before, ∃ d, other.Writes d) ∧ (¬ ∃ d, value.Writes d) ∧
        rejection = .invalidThreshold value.text := by
  refine ⟨?_, ?_, ?_⟩
  · rw [ofSpecifier_succeeds_iff, Specifier.misfit?_eq_none]
  · intro compiled names' h
    have hholds := ofSpecifier_holds h
    have hcount : compiled.thresholds.length = node.values.length := hholds.length_eq.symm
    have hfields : compiled.fields.map (·.name) = compiled.thresholds.map (·.1) := by
      rw [CompiledSpecifier.fields, List.map_map]
      rfl
    obtain ⟨hnames, hissued⟩ := ofSpecifier_names h
    rw [hcount] at hnames hissued
    refine ⟨hfields.trans hnames, ?_, (thresholds_predicate h).trans hfields.symm, ?_, hissued⟩
    · rw [CompiledSpecifier.fields, List.forall₂_map_right_iff]
      exact hholds.imp fun value threshold hwrites => ⟨threshold.2, hwrites, rfl⟩
    · rw [thresholdsOf_fields, (Sorted.ofList_perm (ofSpecifier_names_nodup h)).length_eq, hcount]
  · intro rejection
    rw [ofSpecifier_eq_error]
    constructor
    · rintro ⟨value, hmisfit, hrejection⟩
      obtain ⟨before, after, hsplit, hbefore, hvalue⟩ := Specifier.misfit?_eq_some.mp hmisfit
      exact ⟨before, value, after, hsplit, hbefore, hvalue, hrejection⟩
    · rintro ⟨before, value, after, hsplit, hbefore, hvalue, hrejection⟩
      exact ⟨value, Specifier.misfit?_eq_some.mpr ⟨before, after, hsplit, hbefore, hvalue⟩,
        hrejection⟩

/-- A specifier with two literals that write no decimal, behind three that do. -/
def misfittingSpecifier : Specifier :=
  .node .or nestedSpecifier
    (.node .and (.leaf .equal (.chain ["limits", "max"]) false)
      (.leaf .above (.literal (.string "lots")) true))

/-- The first threshold of the declaration was issued before. -/
theorem nested_specifier_numbers_its_literals :
    (∃ compiled names',
      CompiledSpecifier.ofSpecifier (NameSupply.fresh {} "threshold").2 nestedSpecifier =
        .ok (compiled, names') ∧
      compiled.fields.map (·.name) = ["threshold_1", "threshold_2", "threshold_3"] ∧
      compiled.predicate.thresholds = compiled.fields.map (·.name) ∧
      (Sorted.ofList (thresholdsOf compiled.fields)).length = 3 ∧
      names'.issued "threshold" = 4) ∧
    CompiledSpecifier.ofSpecifier {} misfittingSpecifier =
      .error (.invalidThreshold "limits.max") := by
  constructor
  · obtain ⟨-, hlowered, -⟩ := a_specifier_numbers_its_literals_from_left_to_right
      (NameSupply.fresh {} "threshold").2 nestedSpecifier
    obtain ⟨hnames, -, hpredicate, hlength, hissued⟩ := hlowered _ _ rfl
    exact ⟨_, _, rfl, hnames, hpredicate, hlength, hissued⟩
  · obtain ⟨-, -, hrefused⟩ :=
      a_specifier_numbers_its_literals_from_left_to_right {} misfittingSpecifier
    refine (hrefused _).mpr ⟨nestedSpecifier.values, .chain ["limits", "max"],
      [.literal (.string "lots")], rfl, ?_, ?_, rfl⟩
    · exact List.forall_mem_cons.mpr ⟨⟨_, "100", .inl rfl, rfl⟩, List.forall_mem_cons.mpr
        ⟨⟨_, " 0.5 ", .inr rfl, rfl⟩, List.forall_mem_cons.mpr
          ⟨⟨_, "7e0", .inl rfl, rfl⟩, List.forall_mem_nil _⟩⟩⟩
    · rintro ⟨d, text, h | h, -⟩
      · cases h
      · cases h

end Watchtower
