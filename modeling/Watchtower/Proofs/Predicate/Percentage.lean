-- Comparisons as relations of numbers: when a comparison decides by the exact values, what it does
-- with readings below zero, and why a change by at most the whole of a reading never overflows.
import Watchtower.Proofs.Decimal.Rounding
import Watchtower.Proofs.Outcome
import Watchtower.Proofs.Predicate.Chain

namespace Watchtower

open Source (Relation)

/-! ## Relations of numbers -/

/-- The relation between two numbers. -/
def Source.Relation.Relates (r : Relation) (left right : ℚ) : Prop :=
  match r with
  | .above => right < left
  | .below => left < right
  | .equal => left = right

instance (r : Relation) (left right : ℚ) : Decidable (r.Relates left right) :=
  match r with
  | .above => inferInstanceAs (Decidable (right < left))
  | .below => inferInstanceAs (Decidable (left < right))
  | .equal => inferInstanceAs (Decidable (left = right))

/-- Decimals are related as the numbers that they stand for. -/
theorem Source.Relation.holds_iff (r : Relation) (a b : Decimal) :
    r.holds a b = true ↔ r.Relates a.value b.value := by
  cases r with
  | above => rw [holds, beq_iff_eq, Decimal.compare_eq_gt]; rfl
  | below => rw [holds, beq_iff_eq, Decimal.compare_eq_lt]; rfl
  | equal => rw [holds, beq_iff_eq, Decimal.compare_eq_eq]; rfl

theorem Source.Relation.holds_eq (r : Relation) (a b : Decimal) :
    r.holds a b = decide (r.Relates a.value b.value) :=
  Bool.eq_iff_iff.mpr ((r.holds_iff a b).trans decide_eq_true_iff.symm)

/-! ## The two measures -/

variable {previous current : Json} {p c T : Decimal}

theorem changeDelta_eq_ok (hp : Reading.numeric previous = .ok p)
    (hc : Reading.numeric current = .ok c) {delta : Decimal} :
    Reading.changeDelta previous current = .ok delta ↔
      ∃ difference, p.sub? c = some difference ∧ difference.abs = delta := by
  simp only [Reading.changeDelta, hp, hc, bind, Except.bind]
  cases p.sub? c <;> simp

theorem percentageOf_eq_ok (hp : Reading.numeric previous = .ok p) {part : Decimal} :
    Reading.percentageOf previous T = .ok part ↔ Decimal.percentOf? T p = some part := by
  simp only [Reading.percentageOf, hp, bind, Except.bind]
  cases Decimal.percentOf? T p <;> simp

/-- A comparison in percent needs both measures. -/
theorem test_percentage_eq_ok {r : Relation} {b : Bool} :
    r.test true T previous current = .ok b ↔
      ∃ delta part, Reading.changeDelta previous current = .ok delta ∧
        Reading.percentageOf previous T = .ok part ∧ r.holds delta part = b := by
  simp only [Relation.test, if_true, bind_eq_ok]
  constructor
  · rintro ⟨delta, hdelta, part, hpart, h⟩
    cases h
    exact ⟨delta, part, hdelta, hpart, rfl⟩
  · rintro ⟨delta, part, hdelta, hpart, rfl⟩
    exact ⟨delta, hdelta, part, hpart, rfl⟩

theorem test_reading (r : Relation) (hc : Reading.numeric current = .ok c) :
    r.test false T previous current = .ok (r.holds c T) := by
  simp only [Relation.test, hc]
  rfl

theorem test_of_lookup {comparison : Comparison} {thresholds : Thresholds}
    (hfound : thresholds.lookup comparison.threshold = some T) :
    comparison.test thresholds previous current =
      comparison.relation.test comparison.percentage T previous current := by
  rw [Comparison.test, hfound]

/-- A predicate of one comparison comes to what the comparison comes to. -/
theorem evaluate_compare {comparison : Comparison} {thresholds : Thresholds}
    (hfound : thresholds.lookup comparison.threshold = some T) :
    (Predicate.compare comparison).evaluate thresholds previous current =
      comparison.relation.test comparison.percentage T previous current := by
  rw [Predicate.evaluate_eq_settle, Predicate.chain, Chain.map, test_of_lookup hfound]
  rcases comparison.relation.test comparison.percentage T previous current with f | _ | _ <;> rfl

/-! ## Exact comparisons -/

theorem changeDelta_of_fits (hp : Reading.numeric previous = .ok p)
    (hc : Reading.numeric current = .ok c)
    (hfits : |(p.value - c.value) * 10 ^ max p.scale c.scale| < 2 ^ 96) :
    ∃ delta, Reading.changeDelta previous current = .ok delta ∧
      delta.value = |p.value - c.value| := by
  obtain ⟨delta, hdelta, hvalue⟩ := Decimal.sub?_of_fits (Decimal.natAbs_difference_lt hfits)
  exact ⟨delta.abs, (changeDelta_eq_ok hp hc).mpr ⟨delta, hdelta, rfl⟩,
    by rw [Decimal.value_abs, hvalue]⟩

theorem percentageOf_of_fits {m : Int} {s : Nat} (hp : Reading.numeric previous = .ok p)
    (hhundredth : T.value / 100 = Decimal.scaled m s) (hshort : Decimal.IsShort m s)
    (hcoefficient : |p.coefficient * m| < 2 ^ 96) (hscale : p.scale + s ≤ 28) :
    ∃ part, Reading.percentageOf previous T = .ok part ∧ part.value = p.value * T.value / 100 := by
  obtain ⟨hundredth, hsome, rfl, rfl⟩ :=
    Decimal.hundredth?_of_fits hhundredth hshort (by unfold Decimal.maxScale; omega)
  obtain ⟨part, hpart, hvalue⟩ :=
    Decimal.mul?_of_fits (Decimal.natAbs_lt_capacity hcoefficient) hscale
  have hshare : part.value = p.value * T.value / 100 := by
    rw [hvalue, mul_div_assoc, hhundredth]
    rfl
  refine ⟨part, ?_, hshare⟩
  rw [percentageOf_eq_ok hp, Decimal.percentOf?_of_hundredth hsome, hpart]

/-- A comparison of readings is a comparison of their exact values, however they are written. A
comparison in percent is the comparison of the exact change with the exact share, as long as the
change has room with the places of the longer reading, and the share has room as the product of
the reading with the shortest notation of a hundredth of the threshold. -/
theorem comparisons_relate_exact_values (r : Relation) (name : String) (thresholds : Thresholds)
    (T : Decimal) (previous current : Json) (hfound : thresholds.lookup name = some T) :
    (∀ c, Reading.numeric current = .ok c →
      (Predicate.compare ⟨r, name, false⟩).evaluate thresholds previous current =
        .ok (decide (r.Relates c.value T.value))) ∧
    ∀ p c m s, Reading.numeric previous = .ok p → Reading.numeric current = .ok c →
      |(p.value - c.value) * 10 ^ max p.scale c.scale| < 2 ^ 96 →
      T.value / 100 = Decimal.scaled m s → Decimal.IsShort m s →
      |p.coefficient * m| < 2 ^ 96 → p.scale + s ≤ 28 →
      (Predicate.compare ⟨r, name, true⟩).evaluate thresholds previous current =
        .ok (decide (r.Relates |p.value - c.value| (p.value * T.value / 100))) := by
  refine ⟨?_, ?_⟩
  · intro c hc
    rw [evaluate_compare hfound, test_reading r hc, Relation.holds_eq]
  · intro p c m s hp hc hfits hhundredth hshort hcoefficient hscale
    obtain ⟨delta, hdelta, hdeltaValue⟩ := changeDelta_of_fits hp hc hfits
    obtain ⟨part, hpart, hpartValue⟩ :=
      percentageOf_of_fits hp hhundredth hshort hcoefficient hscale
    rw [evaluate_compare hfound, test_percentage_eq_ok]
    exact ⟨delta, part, hdelta, hpart, by rw [Relation.holds_eq, hdeltaValue, hpartValue]⟩

/-- An eighth in percent, with a place more than it needs. -/
def eighth : Decimal := ⟨1250, 2, by decide, by decide⟩

/-- From 80 to 90 is a change by just an eighth. -/
theorem a_change_by_an_eighth_is_exact :
    (Predicate.compare ⟨.equal, "limit", true⟩).evaluate [("limit", eighth)] (.str "80.0")
        (.str "9e1") = .ok true ∧
      (Predicate.compare ⟨.above, "limit", false⟩).evaluate [("limit", eighth)] (.str "80.0")
        (.str "12.5") = .ok false := by
  constructor
  · obtain ⟨-, hpercentage⟩ := comparisons_relate_exact_values .equal "limit" [("limit", eighth)]
      eighth (.str "80.0") (.str "9e1") rfl
    have h := hpercentage ⟨800, 1, by decide, by decide⟩ ⟨90, 0, by decide, Nat.zero_le _⟩ 125 3 rfl
      rfl (by norm_num [Decimal.value, Decimal.scaled])
      (by norm_num [Decimal.value, Decimal.scaled, eighth]) (Or.inr (by decide)) (by decide)
      (by decide)
    rw [h]
    norm_num [Decimal.value, Decimal.scaled, eighth, Relation.Relates]
  · obtain ⟨hreading, -⟩ := comparisons_relate_exact_values .above "limit" [("limit", eighth)]
      eighth (.str "80.0") (.str "12.5") rfl
    have h := hreading ⟨125, 1, by decide, by decide⟩ rfl
    rw [h]
    norm_num [Decimal.value, Decimal.scaled, eighth, Relation.Relates]

/-! ## Readings of the other sign -/

/-- Readings of the other sign have the same change. -/
theorem changeDelta_neg {previous' current' : Json} {delta : Decimal}
    (hp : Reading.numeric previous = .ok p) (hc : Reading.numeric current = .ok c)
    (hp' : Reading.numeric previous' = .ok p.neg) (hc' : Reading.numeric current' = .ok c.neg)
    (h : Reading.changeDelta previous current = .ok delta) :
    Reading.changeDelta previous' current' = .ok delta := by
  obtain ⟨difference, hdifference, rfl⟩ := (changeDelta_eq_ok hp hc).mp h
  refine (changeDelta_eq_ok hp' hc').mpr ⟨difference.neg, ?_, Decimal.abs_neg difference⟩
  rw [Decimal.sub?_neg, hdifference, Option.map_some]

/-- The share of a reading of the other sign has the other sign. -/
theorem percentageOf_neg {previous' : Json} {part : Decimal}
    (hp : Reading.numeric previous = .ok p) (hp' : Reading.numeric previous' = .ok p.neg)
    (h : Reading.percentageOf previous T = .ok part) :
    Reading.percentageOf previous' T = .ok part.neg := by
  rw [percentageOf_eq_ok hp] at h
  rw [percentageOf_eq_ok hp', Decimal.percentOf?_neg, h, Option.map_some]

/-- It makes no difference to the relation of a change to a share which sign the share has: the
share is zero, or the change is beyond it on both sides of zero, or not past it on either. -/
def Source.Relation.IgnoresSign (r : Relation) (change share : ℚ) : Prop :=
  share = 0 ∨
    match r with
    | .above => |share| < change
    | .below => |share| ≤ change
    | .equal => change ≠ |share|

theorem relates_neg_iff (r : Relation) {change : ℚ} (share : ℚ) (hchange : 0 ≤ change) :
    (r.Relates change share ↔ r.Relates change (-share)) ↔ r.IgnoresSign change share := by
  cases r with
  | above =>
    simp only [Relation.Relates, Relation.IgnoresSign, abs_lt]
    grind
  | below =>
    simp only [Relation.Relates, Relation.IgnoresSign, abs_le]
    grind
  | equal =>
    simp only [Relation.Relates, Relation.IgnoresSign]
    grind [abs_eq hchange]

theorem changeDelta_nonneg {delta : Decimal} (hp : Reading.numeric previous = .ok p)
    (hc : Reading.numeric current = .ok c)
    (h : Reading.changeDelta previous current = .ok delta) : 0 ≤ delta.value := by
  obtain ⟨difference, -, rfl⟩ := (changeDelta_eq_ok hp hc).mp h
  rw [Decimal.value_abs]
  exact abs_nonneg _

/-- A comparison in percent sets the change, which has no sign, against a share of the previous
reading, which has one. Where both readings change their sign, the change stays and the share
changes its sign, so the outcome is the same just where the sign of the share does not matter. -/
theorem readings_of_the_other_sign_have_the_other_share (r : Relation) (name : String)
    (thresholds : Thresholds) (T p c : Decimal) (previous current previous' current' : Json)
    (b b' : Bool) (hfound : thresholds.lookup name = some T)
    (hp : Reading.numeric previous = .ok p) (hc : Reading.numeric current = .ok c)
    (hp' : Reading.numeric previous' = .ok p.neg) (hc' : Reading.numeric current' = .ok c.neg)
    (hb : (Predicate.compare ⟨r, name, true⟩).evaluate thresholds previous current = .ok b)
    (hb' : (Predicate.compare ⟨r, name, true⟩).evaluate thresholds previous' current' = .ok b') :
    ∃ delta part, Reading.changeDelta previous current = .ok delta ∧
      Reading.changeDelta previous' current' = .ok delta ∧
      Reading.percentageOf previous T = .ok part ∧
      Reading.percentageOf previous' T = .ok part.neg ∧
      (b = b' ↔ r.IgnoresSign delta.value part.value) := by
  rw [evaluate_compare hfound, test_percentage_eq_ok] at hb hb'
  obtain ⟨delta, part, hdelta, hpart, rfl⟩ := hb
  obtain ⟨delta', part', hdelta', hpart', rfl⟩ := hb'
  have hsameDelta := changeDelta_neg hp hc hp' hc' hdelta
  have hotherPart := percentageOf_neg hp hp' hpart
  obtain rfl : delta = delta' := Except.ok.inj (hsameDelta.symm.trans hdelta')
  obtain rfl : part.neg = part' := Except.ok.inj (hotherPart.symm.trans hpart')
  refine ⟨delta, part, hdelta, hdelta', hpart, hpart', ?_⟩
  rw [Bool.eq_iff_iff, Relation.holds_iff, Relation.holds_iff, Decimal.value_neg]
  exact relates_neg_iff r _ (changeDelta_nonneg hp hc hdelta)

/-- A tenth in percent. -/
def tenth : Decimal := ⟨10, 0, by decide, Nat.zero_le _⟩

/-- From 100 to 105 is no change above a tenth, but from -100 to -105 is. -/
theorem readings_of_the_other_sign_can_decide_otherwise :
    ¬ ∀ (r : Relation) (name : String) (thresholds : Thresholds) (T p c : Decimal)
      (previous current previous' current' : Json) (b b' : Bool),
      thresholds.lookup name = some T →
      Reading.numeric previous = .ok p → Reading.numeric current = .ok c →
      Reading.numeric previous' = .ok p.neg → Reading.numeric current' = .ok c.neg →
      (Predicate.compare ⟨r, name, true⟩).evaluate thresholds previous current = .ok b →
      (Predicate.compare ⟨r, name, true⟩).evaluate thresholds previous' current' = .ok b' →
      b = b' := by
  intro h
  have hsame := h .above "limit" [("limit", tenth)] tenth ⟨100, 0, by decide, Nat.zero_le _⟩
    ⟨105, 0, by decide, Nat.zero_le _⟩ (.ofInt 100) (.ofInt 105) (.ofInt (-100)) (.ofInt (-105))
    false true rfl rfl rfl rfl rfl rfl rfl
  cases hsame

/-- The readings of the other sign have a change of 5 too, and a share of -10. -/
theorem a_tenth_of_a_reading_below_zero_is_below_zero :
    ∃ delta part, Reading.changeDelta (.ofInt 100) (.ofInt 105) = .ok delta ∧
      Reading.changeDelta (.ofInt (-100)) (.ofInt (-105)) = .ok delta ∧
      Reading.percentageOf (.ofInt 100) tenth = .ok part ∧
      Reading.percentageOf (.ofInt (-100)) tenth = .ok part.neg ∧
      (false = true ↔ Relation.above.IgnoresSign delta.value part.value) :=
  readings_of_the_other_sign_have_the_other_share .above "limit" [("limit", tenth)] tenth
    ⟨100, 0, by decide, Nat.zero_le _⟩ ⟨105, 0, by decide, Nat.zero_le _⟩ (.ofInt 100) (.ofInt 105)
    (.ofInt (-100)) (.ofInt (-105)) false true rfl rfl rfl rfl rfl rfl rfl

/-! ## Changes that never overflow -/

theorem changeDelta_of_same_sign (hp : Reading.numeric previous = .ok p)
    (hc : Reading.numeric current = .ok c) (hsign : 0 ≤ p.value * c.value) :
    Succeeds (Reading.changeDelta previous current) := by
  obtain ⟨difference, hdifference⟩ := Decimal.sub?_of_same_sign hsign
  exact ⟨_, (changeDelta_eq_ok hp hc).mpr ⟨difference, hdifference, rfl⟩⟩

theorem percentageOf_of_le (hp : Reading.numeric previous = .ok p) (hT : |T.value| ≤ 100) :
    Succeeds (Reading.percentageOf previous T) := by
  obtain ⟨hundredth, hsome, hle⟩ := Decimal.hundredth?_of_le hT
  obtain ⟨part, hpart⟩ := Decimal.mul?_of_le_one p hle
  refine ⟨part, ?_⟩
  rw [percentageOf_eq_ok hp, Decimal.percentOf?_of_hundredth hsome, hpart]

theorem test_succeeds {r : Relation} {percentage : Bool} (hp : Reading.numeric previous = .ok p)
    (hc : Reading.numeric current = .ok c) (hsign : 0 ≤ p.value * c.value)
    (hT : percentage = true → |T.value| ≤ 100) :
    Succeeds (r.test percentage T previous current) := by
  cases percentage with
  | false =>
    rw [test_reading r hc]
    exact succeeds_ok _
  | true =>
    obtain ⟨delta, hdelta⟩ := changeDelta_of_same_sign hp hc hsign
    obtain ⟨part, hpart⟩ := percentageOf_of_le hp (hT rfl)
    exact ⟨_, test_percentage_eq_ok.mpr ⟨delta, part, hdelta, hpart, rfl⟩⟩

theorem Predicate.mem_tokens {p : Predicate} {comparison : Comparison} :
    .comparison comparison ∈ p.tokens ↔ comparison ∈ p.chain.terms := by
  induction p with
  | compare own => simp [tokens, chain, Chain.terms]
  | joined connective left right ihl ihr =>
    simp [tokens, chain, Chain.terms_join, ihl, ihr]

theorem Predicate.mem_thresholds {p : Predicate} {name : String} :
    name ∈ p.thresholds ↔ ∃ comparison ∈ p.chain.terms, comparison.threshold = name := by
  simp only [thresholds, List.mem_filterMap, ← mem_tokens]
  constructor
  · rintro ⟨own | connective, hmem, hname⟩
    · exact ⟨own, hmem, Option.some.inj hname⟩
    · cases hname
  · rintro ⟨own, hmem, rfl⟩
    exact ⟨_, hmem, rfl⟩

/-- Between readings that are not of opposite sign, a predicate whose thresholds in percent are at
most the whole fails only for a threshold that is missing. -/
theorem evaluate_eq_error_of_le {predicate : Predicate} {thresholds : Thresholds} {f : Fault}
    (hp : Reading.numeric previous = .ok p) (hc : Reading.numeric current = .ok c)
    (hsign : 0 ≤ p.value * c.value)
    (hsmall : ∀ comparison, .comparison comparison ∈ predicate.tokens →
      comparison.percentage = true → ∀ T, thresholds.lookup comparison.threshold = some T →
        |T.value| ≤ 100)
    (h : predicate.evaluate thresholds previous current = .error f) :
    ∃ name ∈ predicate.thresholds, thresholds.lookup name = none ∧
      f = .unknownMember "threshold" name := by
  rw [Predicate.evaluate_eq_settle] at h
  have hmem := Chain.mem_terms_of_settle_error h
  rw [Chain.terms_map, List.mem_map] at hmem
  obtain ⟨comparison, hterm, htest⟩ := hmem
  cases hfound : thresholds.lookup comparison.threshold with
  | none =>
    rw [Comparison.test, hfound] at htest
    cases htest
    exact ⟨_, Predicate.mem_thresholds.mpr ⟨comparison, hterm, rfl⟩, hfound, rfl⟩
  | some T =>
    obtain ⟨b, hb⟩ := test_succeeds (r := comparison.relation) (T := T) hp hc hsign
      fun hpercentage => hsmall comparison (Predicate.mem_tokens.mpr hterm) hpercentage T hfound
    rw [test_of_lookup hfound, hb] at htest
    cases htest

/-- A predicate whose thresholds in percent lie between -100 and 100 never overflows on a change
between readings that are not of opposite sign, however large these are, and whatever the shape
of the predicate. It decides the change when none of its thresholds is missing. -/
theorem percentages_up_to_the_whole_never_overflow (predicate : Predicate)
    (thresholds : Thresholds) (previous current : Json) (p c : Decimal)
    (hp : Reading.numeric previous = .ok p) (hc : Reading.numeric current = .ok c)
    (hsign : 0 ≤ p.value * c.value)
    (hsmall : ∀ comparison, .comparison comparison ∈ predicate.tokens →
      comparison.percentage = true → ∀ T, thresholds.lookup comparison.threshold = some T →
        -100 ≤ T.value ∧ T.value ≤ 100) :
    (∀ operation, predicate.evaluate thresholds previous current ≠
      .error (.overflow operation)) ∧
    ((∀ name ∈ predicate.thresholds, (thresholds.lookup name).isSome) →
      ∃ b, predicate.evaluate thresholds previous current = .ok b) := by
  have hmissing {f : Fault} (h : predicate.evaluate thresholds previous current = .error f) :=
    evaluate_eq_error_of_le hp hc hsign
      (fun comparison hmem hpercentage T hT =>
        abs_le.mpr (hsmall comparison hmem hpercentage T hT)) h
  refine ⟨?_, ?_⟩
  · intro operation h
    obtain ⟨name, -, -, hfault⟩ := hmissing h
    cases hfault
  · intro hpresent
    cases h : predicate.evaluate thresholds previous current with
    | ok b => exact ⟨b, rfl⟩
    | error f =>
      obtain ⟨name, hname, hnone, -⟩ := hmissing h
      have := hpresent name hname
      rw [hnone] at this
      cases this

/-- Both edges of the percentages, and a reading: changes by more than all of the reading, or
losses of almost all of it. -/
def edgePredicate : Predicate :=
  .joined .or
    (.joined .and (.compare ⟨.above, "all", true⟩) (.compare ⟨.below, "limit", false⟩))
    (.compare ⟨.equal, "loss", true⟩)

/-- The thresholds of the predicate, with up to 26 places. -/
def edgeThresholds : Thresholds :=
  [("all", ⟨100, 0, by decide, Nat.zero_le _⟩),
    ("limit", ⟨-5, 1, by decide, by decide⟩),
    ("loss", ⟨-9999999999999999999999999999, 26, by decide, by decide⟩)]

/-- From the largest decimal to the smallest above zero, no measure has room for its places. -/
theorem the_largest_reading_does_not_overflow :
    (∀ operation, edgePredicate.evaluate edgeThresholds (.str "79228162514264337593543950335")
      (.str "1e-28") ≠ .error (.overflow operation)) ∧
    ∃ b, edgePredicate.evaluate edgeThresholds (.str "79228162514264337593543950335")
      (.str "1e-28") = .ok b := by
  have hsmall : ∀ comparison, .comparison comparison ∈ edgePredicate.tokens →
      comparison.percentage = true → ∀ T, edgeThresholds.lookup comparison.threshold = some T →
        -100 ≤ T.value ∧ T.value ≤ 100 := by
    intro comparison hmem hpercentage T hT
    simp only [edgePredicate, Predicate.tokens, List.cons_append, List.nil_append, List.mem_cons,
      PredicateToken.comparison.injEq, reduceCtorEq, false_or, List.not_mem_nil, or_false] at hmem
    rcases hmem with rfl | rfl | rfl
    · cases hT
      norm_num [Decimal.value, Decimal.scaled]
    · cases hpercentage
    · cases hT
      norm_num [Decimal.value, Decimal.scaled]
  obtain ⟨hroom, hdecides⟩ := percentages_up_to_the_whole_never_overflow edgePredicate
    edgeThresholds (.str "79228162514264337593543950335") (.str "1e-28")
    ⟨79228162514264337593543950335, 0, by decide, Nat.zero_le _⟩ ⟨1, 28, by decide, by decide⟩ rfl
    rfl (by norm_num [Decimal.value, Decimal.scaled]) hsmall
  exact ⟨hroom, hdecides (by decide)⟩

/-- One percent more than the whole of the largest decimal has no room. -/
example : Reading.percentageOf (.str "79228162514264337593543950335")
    ⟨101, 0, by decide, Nat.zero_le _⟩ =
      .error (.overflow "101% of 79228162514264337593543950335") := rfl

end Watchtower
