-- The numbers that decimals stand for. Decimals with different numbers of places are compared as
-- these numbers are, and a number that can be written with places has one shortest notation.
import Mathlib.Algebra.Order.Field.Basic
import Mathlib.Algebra.Order.Ring.Rat
import Mathlib.Data.Rat.Cast.Order
import Mathlib.Tactic.FieldSimp
import Mathlib.Tactic.NormNum
import Mathlib.Tactic.Positivity
import Mathlib.Tactic.Ring
import Watchtower.Decimal.Basic

attribute [ext] Watchtower.Decimal

namespace Watchtower.Decimal

/-! ## Coefficients with places -/

/-- The number that a coefficient stands for with its last `scale` digits behind the point. -/
def scaled (coefficient : Int) (scale : Nat) : ℚ := coefficient / 10 ^ scale

theorem scaled_lt_scaled {m n : Int} {s t : Nat} :
    scaled m s < scaled n t ↔ m * 10 ^ t < n * 10 ^ s := by
  rw [scaled, scaled, div_lt_div_iff₀ (by positivity) (by positivity)]
  exact_mod_cast Iff.rfl

theorem scaled_inj {m n : Int} {s t : Nat} :
    scaled m s = scaled n t ↔ m * 10 ^ t = n * 10 ^ s := by
  rw [scaled, scaled, div_eq_div_iff (by positivity) (by positivity)]
  exact_mod_cast Iff.rfl

theorem scaled_neg (m : Int) (s : Nat) : scaled (-m) s = -scaled m s := by
  rw [scaled, scaled, Int.cast_neg, neg_div]

theorem scaled_natAbs (m : Int) (s : Nat) : scaled m.natAbs s = |scaled m s| := by
  have hpos : (0 : ℚ) < 10 ^ s := by positivity
  rw [scaled, scaled, Int.natCast_natAbs, Int.cast_abs, abs_div, abs_of_pos hpos]

theorem abs_scaled_le {m : Int} {s n : Nat} : |scaled m s| ≤ n ↔ m.natAbs ≤ n * 10 ^ s := by
  rw [← scaled_natAbs, scaled, div_le_iff₀ (by positivity)]
  exact_mod_cast Iff.rfl

theorem scaled_mul (m n : Int) (s t : Nat) :
    scaled (m * n) (s + t) = scaled m s * scaled n t := by
  rw [scaled, scaled, scaled, Int.cast_mul, pow_add, mul_div_mul_comm]

theorem scaled_sub (m n : Int) (s : Nat) : scaled (m - n) s = scaled m s - scaled n s := by
  rw [scaled, scaled, scaled, Int.cast_sub, sub_div]

/-- Zeros behind the last place change nothing. -/
theorem scaled_mul_pow (m : Int) (s k : Nat) : scaled (m * 10 ^ k) (s + k) = scaled m s := by
  rw [scaled_inj]
  ring

/-! ## Values and their order -/

/-- The number that a decimal stands for. -/
def value (d : Decimal) : ℚ := scaled d.coefficient d.scale

theorem value_neg (d : Decimal) : d.neg.value = -d.value := scaled_neg _ _

theorem value_abs (d : Decimal) : d.abs.value = |d.value| := scaled_natAbs _ _

theorem value_zero : zero.value = 0 := by simp [value, scaled, zero]

theorem isZero_iff {d : Decimal} : d.isZero = true ↔ d.value = 0 := by
  simp [isZero, value, scaled]

theorem abs_neg (d : Decimal) : d.neg.abs = d.abs := by
  simp [abs, neg]

theorem isZero_neg (d : Decimal) : d.neg.isZero = d.isZero := by
  simp [isZero, neg]

/-- The decimal that is made has just this coefficient and these places. -/
theorem make?_eq_some {c : Int} {s : Nat} {d : Decimal} :
    make? c s = some d ↔ d.coefficient = c ∧ d.scale = s := by
  obtain ⟨coefficient, scale, hlt, hle⟩ := d
  simp only [make?]
  split
  · simp [eq_comm]
  · case isFalse h =>
    refine iff_of_false (by simp) ?_
    rintro ⟨rfl, rfl⟩
    exact h ⟨hlt, hle⟩

/-- The values are compared by their coefficients at a common number of places. -/
theorem compare_eq (a b : Decimal) :
    a.compare b = Ord.compare (a.coefficient * 10 ^ b.scale) (b.coefficient * 10 ^ a.scale) := by
  simp [compare]

theorem compare_eq_lt {a b : Decimal} : a.compare b = .lt ↔ a.value < b.value := by
  rw [compare_eq, value, value, scaled_lt_scaled]
  exact Std.compare_eq_lt

theorem compare_eq_gt {a b : Decimal} : a.compare b = .gt ↔ b.value < a.value := by
  rw [compare_eq, value, value, scaled_lt_scaled]
  exact Std.compare_eq_gt

theorem compare_eq_eq {a b : Decimal} : a.compare b = .eq ↔ a.value = b.value := by
  rw [compare_eq, value, value, scaled_inj]
  exact Std.compare_eq_iff_eq

/-! ## The shortest notation -/

/-- The notation has no zero behind its last place that could be dropped. -/
def IsShort (coefficient : Int) (scale : Nat) : Prop := scale = 0 ∨ ¬ 10 ∣ coefficient

theorem stripZeros_isShort (m : Int) (s : Nat) :
    IsShort (stripZeros m s).1 (stripZeros m s).2 := by
  induction s generalizing m with
  | zero => exact Or.inl rfl
  | succ s ih =>
    unfold stripZeros
    split
    · exact ih _
    · case isFalse h => exact Or.inr fun hdvd => h (Int.tmod_eq_zero_of_dvd hdvd)

theorem scaled_stripZeros (m : Int) (s : Nat) :
    scaled (stripZeros m s).1 (stripZeros m s).2 = scaled m s := by
  induction s generalizing m with
  | zero => rfl
  | succ s ih =>
    unfold stripZeros
    split
    · case isTrue h =>
      have hsplit : m.tdiv 10 * 10 = m := Int.tdiv_mul_cancel (Int.dvd_of_tmod_eq_zero h)
      rw [ih, ← scaled_mul_pow _ s 1, pow_one, hsplit]
    · rfl

/-- Of two notations of a number with different numbers of places, the longer has a zero to
drop. -/
theorem IsShort.scale_le {m n : Int} {s t : Nat} (hshort : IsShort m s)
    (h : scaled m s = scaled n t) : s ≤ t := by
  by_contra hlt
  obtain ⟨k, rfl⟩ : ∃ k, s = t + (k + 1) := ⟨s - t - 1, by omega⟩
  rw [← scaled_mul_pow n t (k + 1), scaled_inj] at h
  have hm : m = n * 10 ^ (k + 1) := Int.eq_of_mul_eq_mul_right (by positivity) h
  rcases hshort with hzero | hdvd
  · omega
  · exact hdvd ⟨n * 10 ^ k, by rw [hm, pow_succ]; ring⟩

/-- A number has one notation without zeros to drop. -/
theorem IsShort.unique {m n : Int} {s t : Nat} (hm : IsShort m s) (hn : IsShort n t)
    (h : scaled m s = scaled n t) : m = n ∧ s = t := by
  obtain rfl : s = t := Nat.le_antisymm (hm.scale_le h) (hn.scale_le h.symm)
  exact ⟨Int.eq_of_mul_eq_mul_right (by positivity) (scaled_inj.mp h), rfl⟩

theorem value_normalize (d : Decimal) : d.normalize.value = d.value := scaled_stripZeros _ _

/-- Decimals of one value have one shortest notation. -/
theorem normalize_eq_iff {a b : Decimal} : a.normalize = b.normalize ↔ a.value = b.value := by
  refine ⟨fun h => by rw [← value_normalize a, h, value_normalize], fun h => ?_⟩
  have hvalues : a.normalize.value = b.normalize.value := by
    rw [value_normalize, h, value_normalize]
  obtain ⟨hcoefficient, hscale⟩ :=
    (stripZeros_isShort a.coefficient a.scale).unique (stripZeros_isShort b.coefficient b.scale)
      hvalues
  exact Decimal.ext hcoefficient hscale

end Watchtower.Decimal
