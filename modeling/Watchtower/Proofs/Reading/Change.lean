-- How far a reading moved. The change is the distance of the two readings, in whichever order they
-- are taken: exact where it has room, else rounded. Only past the largest decimal is there none.
import Watchtower.Proofs.Predicate.Percentage

namespace Watchtower

variable {previous current : Json} {p c : Decimal}

theorem changeDelta_eq_error (hp : Reading.numeric previous = .ok p)
    (hc : Reading.numeric current = .ok c) {f : Fault} :
    Reading.changeDelta previous current = .error f ↔
      p.sub? c = none ∧ f = .overflow (p.text ++ " - " ++ c.text) := by
  simp only [Reading.changeDelta, hp, hc, bind, Except.bind]
  cases p.sub? c <;> simp [eq_comm]

/-- The two orders of the readings have a change together, and it is the same. -/
theorem changeDelta_swap (hp : Reading.numeric previous = .ok p)
    (hc : Reading.numeric current = .ok c) :
    (Reading.changeDelta previous current = .error (.overflow (p.text ++ " - " ++ c.text)) ∧
      Reading.changeDelta current previous = .error (.overflow (c.text ++ " - " ++ p.text))) ∨
    ∃ delta other, Reading.changeDelta previous current = .ok delta ∧
      Reading.changeDelta current previous = .ok other ∧ delta.value = other.value := by
  have hswap := Decimal.sub?_swap p c
  cases hpc : p.sub? c with
  | none =>
    rw [hpc, Option.map_none, Option.map_eq_none_iff] at hswap
    exact .inl ⟨(changeDelta_eq_error hp hc).mpr ⟨hpc, rfl⟩,
      (changeDelta_eq_error hc hp).mpr ⟨hswap, rfl⟩⟩
  | some difference =>
    rw [hpc, Option.map_some, Option.map_eq_some_iff] at hswap
    obtain ⟨swapped, hcp, hvalue⟩ := hswap
    refine .inr ⟨difference.abs, swapped.abs, (changeDelta_eq_ok hp hc).mpr ⟨difference, hpc, rfl⟩,
      (changeDelta_eq_ok hc hp).mpr ⟨swapped, hcp, rfl⟩, ?_⟩
    rw [Decimal.value_abs, Decimal.value_abs, hvalue, abs_neg]

/-- A change is off by less than a unit of its last place. -/
theorem changeDelta_error_lt (hp : Reading.numeric previous = .ok p)
    (hc : Reading.numeric current = .ok c) {delta : Decimal}
    (h : Reading.changeDelta previous current = .ok delta) :
    |delta.value - (|p.value - c.value|)| < 1 / 10 ^ delta.scale := by
  obtain ⟨difference, hdifference, rfl⟩ := (changeDelta_eq_ok hp hc).mp h
  rw [Decimal.value_abs]
  calc |(|difference.value| - |p.value - c.value|)|
      ≤ |difference.value - (p.value - c.value)| := abs_abs_sub_abs_le _ _
    _ ≤ 1 / (2 * 10 ^ difference.scale) := Decimal.sub?_error hdifference
    _ < 1 / 10 ^ difference.scale := Decimal.half_unit_lt _

/-- The change of a reading is its distance to the reading before, whichever of the two is larger,
and is never below zero. It is exact where the distance has room with the places of the longer
reading, and else it is off by less than a unit of its last place. There is a change where the
distance is at most the largest decimal, and none where it is larger than that by one or more. -/
theorem a_change_is_the_distance_of_two_readings (previous current : Json) (p c : Decimal)
    (hp : Reading.numeric previous = .ok p) (hc : Reading.numeric current = .ok c) :
    ((Reading.changeDelta previous current = .error (.overflow (p.text ++ " - " ++ c.text)) ∧
        Reading.changeDelta current previous = .error (.overflow (c.text ++ " - " ++ p.text))) ∨
      ∃ delta other, Reading.changeDelta previous current = .ok delta ∧
        Reading.changeDelta current previous = .ok other ∧ delta.value = other.value) ∧
    (∀ delta, Reading.changeDelta previous current = .ok delta →
      0 ≤ delta.value ∧
      (|(p.value - c.value) * 10 ^ max p.scale c.scale| < 2 ^ 96 →
        delta.value = |p.value - c.value|) ∧
      |delta.value - (|p.value - c.value|)| < 1 / 10 ^ delta.scale) ∧
    (|p.value - c.value| ≤ 2 ^ 96 - 1 →
      ∃ delta, Reading.changeDelta previous current = .ok delta) ∧
    (2 ^ 96 ≤ |p.value - c.value| →
      Reading.changeDelta previous current = .error (.overflow (p.text ++ " - " ++ c.text))) := by
  refine ⟨changeDelta_swap hp hc, fun delta hdelta => ⟨changeDelta_nonneg hp hc hdelta, ?_,
    changeDelta_error_lt hp hc hdelta⟩, fun hroom => ?_, fun hlarge => ?_⟩
  · intro hfits
    obtain ⟨distance, hdistance, hvalue⟩ := changeDelta_of_fits hp hc hfits
    obtain rfl : distance = delta := Except.ok.inj (hdistance.symm.trans hdelta)
    exact hvalue
  · obtain ⟨difference, hdifference⟩ := Decimal.sub?_of_le hroom
    exact ⟨_, (changeDelta_eq_ok hp hc).mpr ⟨difference, hdifference, rfl⟩⟩
  · refine (changeDelta_eq_error hp hc).mpr ⟨?_, rfl⟩
    rw [Option.eq_none_iff_forall_ne_some]
    intro difference hdifference
    exact absurd (Decimal.lt_of_sub? hdifference) (not_lt.mpr hlarge)

/-- The largest decimal. -/
def Decimal.largest : Decimal := ⟨79228162514264337593543950335, 0, by decide, Nat.zero_le _⟩

/-- The distance from the largest decimal to -0.4 has no room for its place, which is rounded
away. -/
theorem the_change_past_the_largest_decimal_is_rounded :
    Reading.changeDelta (.str "79228162514264337593543950335") (.str "-0.4") = .ok .largest ∧
      0 ≤ Decimal.largest.value ∧
      |Decimal.largest.value - (|Decimal.largest.value - -(4 / 10)|)| <
        1 / 10 ^ Decimal.largest.scale := by
  obtain ⟨-, hresult, -, -⟩ := a_change_is_the_distance_of_two_readings
    (.str "79228162514264337593543950335") (.str "-0.4") .largest ⟨-4, 1, by decide, by decide⟩
    rfl rfl
  have hdelta : Reading.changeDelta (.str "79228162514264337593543950335") (.str "-0.4") =
      .ok .largest := rfl
  obtain ⟨hnonneg, -, herror⟩ := hresult .largest hdelta
  have hvalue : Decimal.value ⟨-4, 1, by decide, by decide⟩ = -(4 / 10) := by
    norm_num [Decimal.value, Decimal.scaled]
  rw [hvalue] at herror
  exact ⟨hdelta, hnonneg, herror⟩

/-- Half a unit past the largest decimal is rounded to the first number that has no room. -/
example : Reading.changeDelta (.str "79228162514264337593543950335") (.str "-0.5") =
    .error (.overflow "79228162514264337593543950335 - -0.5") := rfl

end Watchtower
