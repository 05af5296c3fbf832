-- Decimals of at most 96 bits and 28 places: the values that thresholds and readings are
-- compared as. A decimal keeps its number of places, so `1.0` and `1.00` are equal values
-- with different texts.

namespace Watchtower

/-- The first coefficient that does not fit a decimal. -/
def Decimal.capacity : Nat := Nat.pow 2 96

/-- The most places a decimal has. -/
def Decimal.maxScale : Nat := 28

/-- The decimal `coefficient / 10 ^ scale`. -/
structure Decimal where
  coefficient : Int
  scale : Nat
  coefficient_lt : coefficient.natAbs < Decimal.capacity
  scale_le : scale ≤ Decimal.maxScale
deriving DecidableEq

namespace Decimal

/-- The decimal with this coefficient and scale, if both fit. -/
def make? (coefficient : Int) (scale : Nat) : Option Decimal :=
  if h : coefficient.natAbs < capacity ∧ scale ≤ maxScale then
    some ⟨coefficient, scale, h.1, h.2⟩
  else none

/-- Zero, without places. -/
def zero : Decimal := ⟨0, 0, by decide, by decide⟩

/-- The decimal is zero, with any number of places. -/
def isZero (d : Decimal) : Bool := d.coefficient == 0

/-- The decimal of the other sign. -/
def neg (d : Decimal) : Decimal :=
  ⟨-d.coefficient, d.scale, by rw [Int.natAbs_neg]; exact d.coefficient_lt, d.scale_le⟩

/-- The decimal without its sign. -/
def abs (d : Decimal) : Decimal :=
  ⟨d.coefficient.natAbs, d.scale, by rw [Int.natAbs_natCast]; exact d.coefficient_lt, d.scale_le⟩

/-! ## Order of values -/

/-- Compares the values of two decimals, whatever their numbers of places. -/
def compare (a b : Decimal) : Ordering :=
  Ord.compare (a.coefficient * Nat.pow 10 b.scale) (b.coefficient * Nat.pow 10 a.scale)

/-! ## Text -/

/-- The digits of a number, with zeros in front up to `width` digits. -/
def paddedDigits (width n : Nat) : List Char :=
  let digits := Nat.toDigits 10 n
  List.replicate (width - digits.length) '0' ++ digits

/-- The text of a decimal: all its places, also where they are zero. -/
def text (d : Decimal) : String :=
  let digits := paddedDigits (d.scale + 1) d.coefficient.natAbs
  let whole := digits.take (digits.length - d.scale)
  let places := digits.drop (digits.length - d.scale)
  let sign := if d.coefficient < 0 then ['-'] else []
  String.ofList (sign ++ whole ++ if places.isEmpty then [] else '.' :: places)

/-! ## Trailing zeros -/

/-- Drops trailing zeros of a coefficient, as many as `scale` at most. -/
def stripZeros (coefficient : Int) : Nat → Int × Nat
  | 0 => (coefficient, 0)
  | scale + 1 =>
    if coefficient.tmod 10 = 0 then stripZeros (coefficient.tdiv 10) scale
    else (coefficient, scale + 1)

theorem natAbs_stripZeros_le (coefficient : Int) (scale : Nat) :
    (stripZeros coefficient scale).1.natAbs ≤ coefficient.natAbs := by
  induction scale generalizing coefficient with
  | zero => exact Nat.le_refl _
  | succ scale ih =>
    unfold stripZeros
    split
    · refine Nat.le_trans (ih _) ?_
      rw [Int.natAbs_tdiv]
      exact Nat.div_le_self _ _
    · exact Nat.le_refl _

theorem stripZeros_scale_le (coefficient : Int) (scale : Nat) :
    (stripZeros coefficient scale).2 ≤ scale := by
  induction scale generalizing coefficient with
  | zero => exact Nat.le_refl _
  | succ scale ih =>
    unfold stripZeros
    split
    · exact Nat.le_succ_of_le (ih _)
    · exact Nat.le_refl _

/-- The same value with as few places as it can be written with. -/
def normalize (d : Decimal) : Decimal :=
  ⟨(stripZeros d.coefficient d.scale).1, (stripZeros d.coefficient d.scale).2,
    Nat.lt_of_le_of_lt (natAbs_stripZeros_le _ _) d.coefficient_lt,
    Nat.le_trans (stripZeros_scale_le _ _) d.scale_le⟩

end Decimal

end Watchtower
