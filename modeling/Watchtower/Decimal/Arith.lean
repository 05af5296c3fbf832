-- The arithmetic of decimals. Results are exact where they fit, and otherwise lose places,
-- with a half going to the even neighbour.
import Watchtower.Decimal.Basic

namespace Watchtower.Decimal

/-- Divides, and rounds a half to the even neighbour. -/
def halfEven (n d : Nat) : Nat :=
  let q := n / d
  let twice := 2 * (n % d)
  if twice < d then q
  else if twice > d then q + 1
  else if q % 2 = 0 then q else q + 1

/-- Rounds `coefficient / 10 ^ scale` to `places` places. -/
def roundTo (coefficient : Int) (scale places : Nat) : Int :=
  coefficient.sign * halfEven coefficient.natAbs (Nat.pow 10 (scale - places))

/-- The decimal closest to `coefficient / 10 ^ scale` with the most places, at most `places`,
that leave room for it. -/
def fit? (coefficient : Int) (scale : Nat) : Nat → Option Decimal
  | 0 => make? (roundTo coefficient scale 0) 0
  | places + 1 =>
    match make? (roundTo coefficient scale (places + 1)) (places + 1) with
    | some d => some d
    | none => fit? coefficient scale places

/-- The decimal closest to `coefficient / 10 ^ scale`, if there is room for it. -/
def ofExact? (coefficient : Int) (scale : Nat) : Option Decimal :=
  fit? coefficient scale (min scale maxScale)

/-- The coefficient of a decimal written with `scale` places, no fewer than it has. -/
def coefficientAt (d : Decimal) (scale : Nat) : Int :=
  d.coefficient * Nat.pow 10 (scale - d.scale)

/-- The difference of two decimals, with the places of the one that has more. A zero leaves
the other with its own places. -/
def sub? (a b : Decimal) : Option Decimal :=
  if a.isZero then some b.neg
  else if b.isZero then some a
  else
    let scale := max a.scale b.scale
    ofExact? (a.coefficientAt scale - b.coefficientAt scale) scale

/-- The product of two decimals. -/
def mul? (a b : Decimal) : Option Decimal :=
  if a.isZero || b.isZero then some zero
  else ofExact? (a.coefficient * b.coefficient) (a.scale + b.scale)

/-- A hundredth of a decimal, without trailing zeros. -/
def hundredth? (d : Decimal) : Option Decimal :=
  let (coefficient, scale) := stripZeros d.coefficient (d.scale + 2)
  ofExact? coefficient scale

/-- `percent` percent of `base`. -/
def percentOf? (percent base : Decimal) : Option Decimal := do
  mul? base (← hundredth? percent)

end Watchtower.Decimal
