-- The rounding of decimals. What has room is exact, and what has not is rounded by half a unit at
-- most, and not past whole numbers that have room. A number and its negation are rounded alike.
import Mathlib.Tactic.Linarith
import Watchtower.Decimal.Arith
import Watchtower.Proofs.Decimal.Value

namespace Watchtower.Decimal

/-! ## Rounding to a number of places -/

theorem halfEven_one (n : Nat) : halfEven n 1 = n := by
  simp [halfEven, Nat.mod_one]

/-- A quotient that is at most a whole number is not rounded past it. -/
theorem halfEven_le {n d m : Nat} (hd : 0 < d) (h : n ≤ m * d) : halfEven n d ≤ m := by
  have hq : n / d ≤ m := Nat.div_le_of_le_mul (by rwa [Nat.mul_comm])
  by_cases hlt : n / d < m
  · simp only [halfEven]
    split
    · exact hq
    · split
      · exact hlt
      · split
        · exact hq
        · exact hlt
  · have hrest : n % d = 0 := by
      have hsplit := Nat.div_add_mod n d
      rw [show n / d = m by omega, Nat.mul_comm] at hsplit
      omega
    simp [halfEven, hrest, hd, hq]

/-- A quotient is rounded by half a unit at most. -/
theorem halfEven_error (n : Nat) {d : Nat} (hd : 0 < d) :
    2 * ((halfEven n d : Int) * d - n).natAbs ≤ d := by
  have hsplit : n / d * d + n % d = n := Nat.div_add_mod' n d
  have hrest : n % d < d := Nat.mod_lt n hd
  have hdown : (((n / d : Nat) : Int) * d - n).natAbs = n % d := by
    rw [← Int.natCast_mul]
    omega
  have hup : (((n / d + 1 : Nat) : Int) * d - n).natAbs = d - n % d := by
    rw [← Int.natCast_mul, Nat.add_mul, Nat.one_mul]
    omega
  simp only [halfEven]
  split
  · omega
  · split
    · omega
    · split <;> omega

theorem roundTo_self (c : Int) (s : Nat) : roundTo c s s = c := by
  rw [roundTo, Nat.sub_self, Nat.pow_eq, Nat.pow_zero, halfEven_one, Int.sign_mul_natAbs]

theorem roundTo_neg (c : Int) (s places : Nat) : roundTo (-c) s places = -roundTo c s places := by
  simp [roundTo, Int.natAbs_neg]

theorem natAbs_sign_le_one (c : Int) : c.sign.natAbs ≤ 1 := by
  rw [Int.natAbs_sign]
  split <;> decide

/-- A coefficient that is at most `m` whole stays so when places are rounded away. -/
theorem natAbs_roundTo_le {c : Int} {m s places : Nat} (hplaces : places ≤ s)
    (h : c.natAbs ≤ m * 10 ^ s) : (roundTo c s places).natAbs ≤ m * 10 ^ places := by
  have hsplit : m * 10 ^ s = m * 10 ^ places * 10 ^ (s - places) := by
    rw [Nat.mul_assoc, ← Nat.pow_add, Nat.add_sub_cancel' hplaces]
  have hle : halfEven c.natAbs (10 ^ (s - places)) ≤ m * 10 ^ places :=
    halfEven_le (Nat.pow_pos (by decide)) (by rwa [← hsplit])
  calc (roundTo c s places).natAbs
      = c.sign.natAbs * halfEven c.natAbs (10 ^ (s - places)) := by
        rw [roundTo, Int.natAbs_mul, Int.natAbs_natCast]; rfl
    _ ≤ 1 * (m * 10 ^ places) := Nat.mul_le_mul (natAbs_sign_le_one c) hle
    _ = m * 10 ^ places := Nat.one_mul _

theorem roundTo_error (c : Int) (s places : Nat) :
    2 * (roundTo c s places * 10 ^ (s - places) - c).natAbs ≤ 10 ^ (s - places) := by
  have hround := halfEven_error c.natAbs (Nat.pow_pos (n := s - places) (show 0 < 10 by decide))
  have hsign : roundTo c s places * 10 ^ (s - places) - c =
      c.sign * (halfEven c.natAbs (10 ^ (s - places)) * 10 ^ (s - places) - c.natAbs) := by
    rw [Int.mul_sub, Int.sign_mul_natAbs, roundTo, Int.mul_assoc]
    rfl
  rw [hsign, Int.natAbs_mul]
  rw [Nat.cast_pow, Nat.cast_ofNat] at hround
  calc 2 * (c.sign.natAbs * _) ≤ 2 * (1 * _) :=
        Nat.mul_le_mul_left 2 (Nat.mul_le_mul_right _ (natAbs_sign_le_one c))
    _ ≤ 10 ^ (s - places) := by rwa [Nat.one_mul]

/-- Where places are rounded away, a number moves by half a unit of its last place at most. -/
theorem scaled_roundTo_error {c : Int} {s places : Nat} (hplaces : places ≤ s) :
    |scaled (roundTo c s places) places - scaled c s| ≤ 1 / (2 * 10 ^ places) := by
  obtain ⟨k, rfl⟩ := Nat.exists_eq_add_of_le hplaces
  have hround := roundTo_error c (places + k) places
  rw [Nat.add_sub_cancel_left] at hround
  rw [← scaled_mul_pow _ places k, ← scaled_sub, ← scaled_natAbs, scaled,
    div_le_div_iff₀ (by positivity) (by positivity)]
  generalize (roundTo c (places + k) places * 10 ^ k - c).natAbs = moved at hround
  calc ((moved : Int) : ℚ) * (2 * 10 ^ places)
      = (2 * moved : ℕ) * 10 ^ places := by push_cast; ring
    _ ≤ (10 ^ k : ℕ) * 10 ^ places := by gcongr
    _ = 1 * 10 ^ (places + k) := by push_cast; ring

/-! ## Making room -/

theorem natAbs_lt_capacity {m : Int} (h : |m| < 2 ^ 96) : m.natAbs < capacity := by
  rw [Int.abs_eq_natAbs] at h
  exact_mod_cast h

theorem make?_neg (c : Int) (s : Nat) : make? (-c) s = (make? c s).map neg := by
  simp only [make?, Int.natAbs_neg]
  split <;> rfl

theorem fit?_neg (c : Int) (s places : Nat) : fit? (-c) s places = (fit? c s places).map neg := by
  induction places with
  | zero => rw [fit?, fit?, roundTo_neg, make?_neg]
  | succ places ih =>
    rw [fit?, fit?, roundTo_neg, make?_neg, ih]
    cases make? (roundTo c s (places + 1)) (places + 1) <;> rfl

/-- What is made is the number rounded to the places that are left. -/
theorem fit?_eq_some {c : Int} {s places : Nat} {d : Decimal} (h : fit? c s places = some d) :
    d.scale ≤ places ∧ d.coefficient = roundTo c s d.scale := by
  induction places with
  | zero =>
    obtain ⟨hcoefficient, hscale⟩ := make?_eq_some.mp h
    rw [hcoefficient, hscale]
    exact ⟨Nat.le_refl 0, rfl⟩
  | succ places ih =>
    rw [fit?] at h
    cases hmake : make? (roundTo c s (places + 1)) (places + 1) with
    | some longer =>
      rw [hmake] at h
      cases h
      obtain ⟨hcoefficient, hscale⟩ := make?_eq_some.mp hmake
      rw [hcoefficient, hscale]
      exact ⟨Nat.le_refl _, rfl⟩
    | none =>
      rw [hmake] at h
      obtain ⟨hscale, hcoefficient⟩ := ih h
      exact ⟨Nat.le_succ_of_le hscale, hcoefficient⟩

theorem ofExact?_neg (c : Int) (s : Nat) : ofExact? (-c) s = (ofExact? c s).map neg :=
  fit?_neg _ _ _

/-- What has room is not rounded. -/
theorem ofExact?_of_fits {c : Int} {s : Nat} (hc : c.natAbs < capacity) (hs : s ≤ maxScale) :
    ∃ d, ofExact? c s = some d ∧ d.coefficient = c ∧ d.scale = s := by
  refine ⟨⟨c, s, hc, hs⟩, ?_, rfl, rfl⟩
  have hmake : make? c s = some ⟨c, s, hc, hs⟩ := make?_eq_some.mpr ⟨rfl, rfl⟩
  rw [ofExact?, Nat.min_eq_left hs]
  cases s with
  | zero => rw [fit?, roundTo_self, hmake]
  | succ places => rw [fit?, roundTo_self, hmake]

theorem fit?_of_le {c : Int} {m s places : Nat} (hm : m < capacity) (hplaces : places ≤ s)
    (hmax : places ≤ maxScale) (h : c.natAbs ≤ m * 10 ^ s) :
    ∃ d, fit? c s places = some d ∧ d.coefficient.natAbs ≤ m * 10 ^ d.scale := by
  have hround := natAbs_roundTo_le hplaces h
  induction places with
  | zero =>
    have hlt : (roundTo c s 0).natAbs < capacity := by
      rw [Nat.pow_zero, Nat.mul_one] at hround
      exact Nat.lt_of_le_of_lt hround hm
    exact ⟨⟨_, 0, hlt, hmax⟩, make?_eq_some.mpr ⟨rfl, rfl⟩, hround⟩
  | succ places ih =>
    rw [fit?]
    cases hmake : make? (roundTo c s (places + 1)) (places + 1) with
    | none => exact ih (by omega) (by omega) (natAbs_roundTo_le (by omega) h)
    | some d =>
      obtain ⟨hcoefficient, hscale⟩ := make?_eq_some.mp hmake
      exact ⟨d, rfl, by rw [hcoefficient, hscale]; exact hround⟩

/-- Where there is room for a whole number, there is room for all that is at most as large, and
rounding does not carry past that number. -/
theorem ofExact?_of_le {c : Int} {m s : Nat} (hm : m < capacity) (h : c.natAbs ≤ m * 10 ^ s) :
    ∃ d, ofExact? c s = some d ∧ d.coefficient.natAbs ≤ m * 10 ^ d.scale :=
  fit?_of_le hm (Nat.min_le_left _ _) (Nat.min_le_right _ _) h

theorem ofExact?_error {c : Int} {s : Nat} {d : Decimal} (h : ofExact? c s = some d) :
    |d.value - scaled c s| ≤ 1 / (2 * 10 ^ d.scale) := by
  obtain ⟨hscale, hcoefficient⟩ := fit?_eq_some h
  rw [value, hcoefficient]
  exact scaled_roundTo_error (hscale.trans (Nat.min_le_left _ _))

/-! ## Differences -/

theorem scaled_coefficientAt {d : Decimal} {s : Nat} (h : d.scale ≤ s) :
    scaled (d.coefficientAt s) s = d.value := by
  obtain ⟨k, rfl⟩ := Nat.exists_eq_add_of_le h
  rw [value, ← scaled_mul_pow d.coefficient d.scale k, coefficientAt, Nat.add_sub_cancel_left,
    Nat.pow_eq, Nat.cast_pow, Nat.cast_ofNat]

theorem coefficientAt_neg (d : Decimal) (s : Nat) : d.neg.coefficientAt s = -d.coefficientAt s :=
  Int.neg_mul _ _

/-- The coefficient of a difference, with the places of the longer decimal. -/
def difference (a b : Decimal) : Int :=
  a.coefficientAt (max a.scale b.scale) - b.coefficientAt (max a.scale b.scale)

theorem scaled_difference (a b : Decimal) :
    scaled (a.difference b) (max a.scale b.scale) = a.value - b.value := by
  rw [difference, scaled_sub, scaled_coefficientAt (Nat.le_max_left _ _),
    scaled_coefficientAt (Nat.le_max_right _ _)]

theorem difference_swap (a b : Decimal) : b.difference a = -a.difference b := by
  rw [difference, difference, max_comm, Int.neg_sub]

/-- A difference that has room as a number has room as a coefficient. -/
theorem natAbs_difference_lt {a b : Decimal}
    (h : |(a.value - b.value) * 10 ^ max a.scale b.scale| < 2 ^ 96) :
    (a.difference b).natAbs < capacity := by
  rw [← scaled_difference, scaled, div_mul_cancel₀ _ (by positivity)] at h
  exact natAbs_lt_capacity (by exact_mod_cast h)

/-- A difference with zero is exact. -/
theorem sub?_of_zero {a b : Decimal} (h : a.isZero = true ∨ b.isZero = true) :
    ∃ d, a.sub? b = some d ∧ d.value = a.value - b.value := by
  rw [sub?]
  split
  · case isTrue ha => exact ⟨_, rfl, by rw [value_neg, isZero_iff.mp ha, zero_sub]⟩
  · case isFalse ha =>
    have hb := h.resolve_left ha
    rw [if_pos hb]
    exact ⟨_, rfl, by rw [isZero_iff.mp hb, sub_zero]⟩

theorem sub?_of_nonzero {a b : Decimal} (h : ¬ (a.isZero = true ∨ b.isZero = true)) :
    a.sub? b = ofExact? (a.difference b) (max a.scale b.scale) := by
  obtain ⟨ha, hb⟩ := not_or.mp h
  rw [sub?, if_neg ha, if_neg hb, difference]

theorem sub?_neg (a b : Decimal) : a.neg.sub? b.neg = (a.sub? b).map neg := by
  have hscales : a.neg.scale = a.scale ∧ b.neg.scale = b.scale := ⟨rfl, rfl⟩
  simp only [sub?, isZero_neg, hscales, coefficientAt_neg]
  split
  · rfl
  · split
    · rfl
    · rw [← ofExact?_neg]
      congr 1
      omega

/-- The difference the other way round has the other sign. The decimals differ only where both are
zero, with the places of either. -/
theorem sub?_swap (a b : Decimal) : (b.sub? a).map value = (a.sub? b).map fun d => -d.value := by
  by_cases hzero : a.isZero = true ∨ b.isZero = true
  · obtain ⟨d, hd, hvalue⟩ := sub?_of_zero hzero
    obtain ⟨e, he, hswapped⟩ := sub?_of_zero hzero.symm
    rw [hd, he, Option.map_some, Option.map_some, hvalue, hswapped, neg_sub]
  · rw [sub?_of_nonzero hzero, sub?_of_nonzero (mt Or.symm hzero), difference_swap, max_comm,
      ofExact?_neg, Option.map_map]
    simp only [Function.comp_def, value_neg]

/-- A difference that has room with the places of the longer decimal is exact. -/
theorem sub?_of_fits {a b : Decimal} (h : (a.difference b).natAbs < capacity) :
    ∃ d, a.sub? b = some d ∧ d.value = a.value - b.value := by
  by_cases hzero : a.isZero = true ∨ b.isZero = true
  · exact sub?_of_zero hzero
  · obtain ⟨d, hd, hcoefficient, hscale⟩ :=
      ofExact?_of_fits h (Nat.max_le.mpr ⟨a.scale_le, b.scale_le⟩)
    exact ⟨d, (sub?_of_nonzero hzero).trans hd,
      by rw [value, hcoefficient, hscale, scaled_difference]⟩

/-- A difference is off by half a unit of its last place at most. -/
theorem sub?_error {a b d : Decimal} (h : a.sub? b = some d) :
    |d.value - (a.value - b.value)| ≤ 1 / (2 * 10 ^ d.scale) := by
  by_cases hzero : a.isZero = true ∨ b.isZero = true
  · obtain ⟨e, he, hvalue⟩ := sub?_of_zero hzero
    obtain rfl : e = d := Option.some.inj (he.symm.trans h)
    rw [hvalue, sub_self, abs_zero]
    positivity
  · rw [sub?_of_nonzero hzero] at h
    rw [← scaled_difference]
    exact ofExact?_error h

/-! ### The range of differences -/

theorem cast_largest : ((capacity - 1 : Nat) : ℚ) = 2 ^ 96 - 1 := by norm_num [capacity]

/-- No decimal is larger than the largest coefficient without places. -/
theorem abs_value_le (d : Decimal) : |d.value| ≤ 2 ^ 96 - 1 := by
  rw [value, ← cast_largest, abs_scaled_le]
  exact (Nat.le_pred_of_lt d.coefficient_lt).trans (Nat.le_mul_of_pos_right _ (by positivity))

/-- A decimal is below the first number without room by a unit of its last place at least. -/
theorem abs_value_add_le (d : Decimal) : |d.value| + 1 / 10 ^ d.scale ≤ 2 ^ 96 / 10 ^ d.scale := by
  have hroom : d.coefficient.natAbs + 1 ≤ 2 ^ 96 := d.coefficient_lt
  rw [value, ← scaled_natAbs, scaled, ← add_div]
  exact div_le_div_of_nonneg_right (by exact_mod_cast hroom) (by positivity)

/-- A difference has room where it is at most the largest decimal. -/
theorem sub?_of_le {a b : Decimal} (h : |a.value - b.value| ≤ 2 ^ 96 - 1) :
    ∃ d, a.sub? b = some d := by
  by_cases hzero : a.isZero = true ∨ b.isZero = true
  · obtain ⟨d, hd, -⟩ := sub?_of_zero hzero
    exact ⟨d, hd⟩
  · rw [← scaled_difference, ← cast_largest, abs_scaled_le] at h
    obtain ⟨d, hd, -⟩ := ofExact?_of_le (by decide) h
    exact ⟨d, (sub?_of_nonzero hzero).trans hd⟩

/-- Decimals that are not of opposite sign have a difference, at the edge of the range too. -/
theorem sub?_of_same_sign {a b : Decimal} (h : 0 ≤ a.value * b.value) :
    ∃ d, a.sub? b = some d := by
  refine sub?_of_le ?_
  rcases mul_nonneg_iff.mp h with ⟨ha, hb⟩ | ⟨ha, hb⟩
  · exact abs_sub_le_of_nonneg_of_le ha ((le_abs_self _).trans a.abs_value_le) hb
      ((le_abs_self _).trans b.abs_value_le)
  · rw [abs_sub_comm, ← neg_sub_neg]
    exact abs_sub_le_of_nonneg_of_le (neg_nonneg.mpr ha) ((neg_le_abs _).trans a.abs_value_le)
      (neg_nonneg.mpr hb) ((neg_le_abs _).trans b.abs_value_le)

theorem half_unit_lt (s : Nat) : (1 : ℚ) / (2 * 10 ^ s) < 1 / 10 ^ s :=
  one_div_lt_one_div_of_lt (by positivity) (lt_two_mul_self (by positivity))

/-- There is a difference only where it is below the first number without room. -/
theorem lt_of_sub? {a b d : Decimal} (h : a.sub? b = some d) : |a.value - b.value| < 2 ^ 96 := by
  have hmoved : |a.value - b.value| ≤ |d.value| + 1 / (2 * 10 ^ d.scale) := by
    have hfar := abs_sub_abs_le_abs_sub (a.value - b.value) d.value
    rw [abs_sub_comm (a.value - b.value)] at hfar
    linarith [sub?_error h]
  -- Half a unit is less than what is missing to the first number without room.
  have hunit : (2 : ℚ) ^ 96 / 10 ^ d.scale ≤ 2 ^ 96 :=
    div_le_self (by positivity) (one_le_pow₀ (by norm_num))
  linarith [abs_value_add_le d, half_unit_lt d.scale]

/-! ## Products and hundredths -/

theorem mul?_neg (a b : Decimal) : a.neg.mul? b = (a.mul? b).map neg := by
  have hfields : a.neg.coefficient = -a.coefficient ∧ a.neg.scale = a.scale := ⟨rfl, rfl⟩
  simp only [mul?, isZero_neg, hfields, Int.neg_mul, ofExact?_neg]
  split <;> rfl

theorem percentOf?_neg (percent base : Decimal) :
    percentOf? percent base.neg = (percentOf? percent base).map neg := by
  simp only [percentOf?, mul?_neg]
  cases percent.hundredth? <;> rfl

/-- A product that has room is exact. -/
theorem mul?_of_fits {a b : Decimal} (hc : (a.coefficient * b.coefficient).natAbs < capacity)
    (hs : a.scale + b.scale ≤ maxScale) : ∃ d, a.mul? b = some d ∧ d.value = a.value * b.value := by
  rw [mul?]
  split
  · case isTrue h =>
    refine ⟨_, rfl, ?_⟩
    rcases Bool.or_eq_true_iff.mp h with h | h
    · rw [isZero_iff.mp h, zero_mul, value_zero]
    · rw [isZero_iff.mp h, mul_zero, value_zero]
  · obtain ⟨d, hd, hcoefficient, hscale⟩ := ofExact?_of_fits hc hs
    refine ⟨d, hd, ?_⟩
    rw [value, hcoefficient, hscale, scaled_mul, value, value]

/-- The product with a decimal between -1 and 1 has room. -/
theorem mul?_of_le_one (a : Decimal) {b : Decimal} (h : b.coefficient.natAbs ≤ 10 ^ b.scale) :
    ∃ d, a.mul? b = some d := by
  rw [mul?]
  split
  · exact ⟨_, rfl⟩
  · have hle : (a.coefficient * b.coefficient).natAbs ≤
        a.coefficient.natAbs * 10 ^ (a.scale + b.scale) := by
      rw [Int.natAbs_mul, Nat.pow_add, ← Nat.mul_assoc]
      exact Nat.mul_le_mul (Nat.le_mul_of_pos_right _ (by positivity)) h
    obtain ⟨d, hd, -⟩ := ofExact?_of_le a.coefficient_lt hle
    exact ⟨d, hd⟩

theorem scaled_add_two (m : Int) (s : Nat) : scaled m (s + 2) = scaled m s / 100 := by
  rw [scaled, scaled, pow_add, ← div_div]
  norm_num

theorem scaled_hundredth (d : Decimal) :
    scaled (stripZeros d.coefficient (d.scale + 2)).1 (stripZeros d.coefficient (d.scale + 2)).2 =
      d.value / 100 := by
  rw [scaled_stripZeros, scaled_add_two, value]

theorem hundredth?_eq (d : Decimal) :
    d.hundredth? = ofExact? (stripZeros d.coefficient (d.scale + 2)).1
      (stripZeros d.coefficient (d.scale + 2)).2 := rfl

/-- A hundredth whose shortest notation has room for its places is exact. -/
theorem hundredth?_of_fits {d : Decimal} {m : Int} {s : Nat} (hvalue : d.value / 100 = scaled m s)
    (hshort : IsShort m s) (hs : s ≤ maxScale) :
    ∃ part, d.hundredth? = some part ∧ part.coefficient = m ∧ part.scale = s := by
  obtain ⟨hcoefficient, hscale⟩ :=
    (stripZeros_isShort _ _).unique hshort ((scaled_hundredth d).trans hvalue)
  have hroom := (natAbs_stripZeros_le d.coefficient (d.scale + 2)).trans_lt d.coefficient_lt
  rw [hcoefficient] at hroom
  rw [hundredth?_eq, hcoefficient, hscale]
  exact ofExact?_of_fits hroom hs

theorem percentOf?_of_hundredth {percent part : Decimal} (h : percent.hundredth? = some part)
    (base : Decimal) : percentOf? percent base = base.mul? part := by
  simp only [percentOf?, h]
  rfl

/-- A hundredth of a decimal between -100 and 100 is between -1 and 1. -/
theorem hundredth?_of_le {d : Decimal} (h : |d.value| ≤ 100) :
    ∃ part, d.hundredth? = some part ∧ part.coefficient.natAbs ≤ 10 ^ part.scale := by
  have hvalue : |d.value / 100| ≤ 1 := by
    rw [abs_div, abs_of_pos (by norm_num : (0 : ℚ) < 100)]
    exact (div_le_one (by norm_num)).mpr h
  have hle : (stripZeros d.coefficient (d.scale + 2)).1.natAbs ≤
      1 * 10 ^ (stripZeros d.coefficient (d.scale + 2)).2 := by
    rw [← abs_scaled_le, scaled_hundredth]
    exact_mod_cast hvalue
  obtain ⟨part, hpart, hbound⟩ := ofExact?_of_le (by decide) hle
  exact ⟨part, hpart, by rwa [Nat.one_mul] at hbound⟩

end Watchtower.Decimal
