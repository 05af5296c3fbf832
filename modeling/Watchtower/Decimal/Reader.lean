-- Reading decimals from text: plain digits with a point, and the scientific notation with an
-- exponent.
import Watchtower.Decimal.Basic

namespace Watchtower.Decimal

/-- The value of a decimal digit. -/
def digit? (c : Char) : Option Nat :=
  if '0' ≤ c ∧ c ≤ '9' then some (c.toNat - '0'.toNat) else none

/-! ## Plain notation -/

/-- What was read of a plain text so far. -/
structure Scan where
  mantissa : Nat := 0
  scale : Nat := 0
  /-- The point was read. -/
  point : Bool := false
  /-- A digit was read. -/
  seen : Bool := false

/-- Rounds half up on a digit that has no room left. When even the rounded mantissa does not
fit, it gives up one place. -/
def roundOn (mantissa scale digit : Nat) : Option (Nat × Nat) :=
  if digit < 5 then some (mantissa, scale)
  else if mantissa + 1 < capacity then some (mantissa + 1, scale)
  else if scale = 0 then none
  else some ((mantissa + 5) / 10, scale - 1)

/-- Reads digits with at most one point among them and underscores behind the first digit.
A digit behind the point that has no room ends the reading; the text may go on with digits
and underscores that do not count. -/
def scan (st : Scan) : List Char → Option (Nat × Nat)
  | [] => if st.seen then some (st.mantissa, st.scale) else none
  | c :: cs =>
    match digit? c with
    | some d =>
      let mantissa := st.mantissa * 10 + d
      let scale := if st.point then st.scale + 1 else st.scale
      if mantissa < capacity ∧ scale ≤ maxScale then
        scan ⟨mantissa, scale, st.point, true⟩ cs
      else if st.point ∧ cs.all (fun c => (digit? c).isSome || c == '_') then
        roundOn st.mantissa st.scale d
      else none
    | none =>
      if c = '.' ∧ ¬ st.point then scan { st with point := true } cs
      else if c = '_' ∧ st.seen then scan st cs
      else none

/-- A sign in front of a text, and the rest. The flag is set for a minus. -/
def signed : List Char → Bool × List Char
  | '-' :: cs => (true, cs)
  | '+' :: cs => (false, cs)
  | cs => (false, cs)

/-- The decimal of a sign, a mantissa and a scale, if they fit. -/
def ofParts? (negative : Bool) (mantissa scale : Nat) : Option Decimal :=
  make? (if negative then -(mantissa : Int) else mantissa) scale

/-- Reads the plain notation. -/
def readPlain (cs : List Char) : Option Decimal :=
  let (negative, digits) := signed cs
  (scan {} digits).bind fun (mantissa, scale) => ofParts? negative mantissa scale

/-! ## Scientific notation -/

/-- Reads a natural number of digits, with an optional plus in front. -/
def readExponent (cs : List Char) : Option Nat :=
  let digits := match cs with
    | '+' :: rest => rest
    | rest => rest
  if digits.isEmpty then none
  else digits.foldl (fun n c => n.bind fun n => (digit? c).map (n * 10 + ·)) (some 0)

/-- Divides, and rounds a half away from zero. -/
def halfUp (n d : Nat) : Nat :=
  (n + d / 2) / d

/-- Moves the point of `base` by `x` places to the left. Places beyond the last are rounded
away, half away from zero. -/
def shiftDown (base : Decimal) (x : Nat) : Option Decimal :=
  if x > maxScale then none
  else if base.scale + x ≤ maxScale then make? base.coefficient (base.scale + x)
  else
    let kept := halfUp base.coefficient.natAbs (Nat.pow 10 (base.scale + x - maxScale))
    ofParts? (base.coefficient < 0) kept maxScale

/-- Moves the point of `base` by `x` places to the right. -/
def shiftUp (base : Decimal) (x : Nat) : Option Decimal :=
  if x ≤ base.scale then make? base.coefficient (base.scale - x)
  else if x > maxScale then none
  else make? (base.coefficient * Nat.pow 10 (x - base.scale)) 0

/-- Cuts a list at the first `e` of either case. -/
def cutExponent : List Char → Option (List Char × List Char)
  | [] => none
  | c :: cs =>
    if c = 'e' ∨ c = 'E' then some ([], cs)
    else (cutExponent cs).map fun (base, exponent) => (c :: base, exponent)

/-- Reads the scientific notation: a plain base and a whole exponent. -/
def readScientific (cs : List Char) : Option Decimal := do
  let (base, exponent) ← cutExponent cs
  let base ← readPlain base
  match exponent with
  | '-' :: digits => shiftDown base (← readExponent digits)
  | digits => shiftUp base (← readExponent digits)

/-- Reads a decimal in the plain notation or, failing that, the scientific one. -/
def ofText? (s : String) : Option Decimal :=
  (readPlain s.toList).or (readScientific s.toList)

end Watchtower.Decimal
