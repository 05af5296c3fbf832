-- Reading JSON numbers and writing them. A number without point and exponent that fits 64
-- bits is whole; all others are doubles, computed from their first digits and a power of ten.
import Watchtower.Json.Basic
import Watchtower.Json.Shortest

namespace Watchtower.Number

/-! ## The parts of a number -/

/-- The text of a number cut into its parts, all digits. -/
structure Parts where
  negative : Bool
  whole : List Char
  /-- The digits behind the point. -/
  fraction : Option (List Char)
  /-- The digits of the exponent, and whether it is negative. -/
  exponent : Option (Bool × List Char)

/-- Reads the exponent of a number, if there is one. Nothing may follow it. -/
def exponentPart : List Char → Option (Option (Bool × List Char))
  | [] => some none
  | c :: cs =>
    if c = 'e' ∨ c = 'E' then
      let (negative, digits) := match cs with
        | '-' :: rest => (true, rest)
        | '+' :: rest => (false, rest)
        | rest => (false, rest)
      if digits.isEmpty || !digits.all Char.isDigit then none else some (some (negative, digits))
    else none

/-- Reads what follows the whole part of a number. -/
def fractionPart : List Char → Option (Option (List Char) × List Char)
  | '.' :: cs =>
    let digits := cs.takeWhile Char.isDigit
    if digits.isEmpty then none else some (some digits, cs.dropWhile Char.isDigit)
  | cs => some (none, cs)

/-- Cuts the text of a number into its parts: an optional minus, a whole part without
needless zeros, an optional fraction and an optional exponent. -/
def Parts.ofText? (cs : List Char) : Option Parts := do
  let (negative, rest) := match cs with
    | '-' :: rest => (true, rest)
    | rest => (false, rest)
  let whole := rest.takeWhile Char.isDigit
  if whole.isEmpty || (whole.head? == some '0' && whole.length > 1) then none
  let (fraction, rest) ← fractionPart (rest.dropWhile Char.isDigit)
  let exponent ← exponentPart rest
  return ⟨negative, whole, fraction, exponent⟩

/-! ## The value of the parts -/

/-- The value of a digit. -/
def digitValue (c : Char) : Nat := c.toNat - '0'.toNat

/-- The first number that does not fit 64 bits. -/
def wordLimit : Nat := Nat.pow 2 64

/-- Adds digits to a significand as long as it fits 64 bits, and counts the digits left. -/
def accumulate (significand : Nat) : List Char → Nat × Nat
  | [] => (significand, 0)
  | c :: cs =>
    let next := significand * 10 + digitValue c
    if next < wordLimit then accumulate next cs else (significand, (c :: cs).length)

/-- The double nearest to a power of ten. -/
def powerOfTen (n : Nat) : Float := Float.ofScientific 1 false n

/-- Divides by `10 ^ n`, in steps that stay in the range of a double. -/
def scaleDown (f : Float) (n : Nat) : Float :=
  if n ≤ 308 then f / powerOfTen n
  else if f == 0 then f
  else scaleDown (f / powerOfTen 308) (n - 308)
termination_by n

/-- The double `significand * 10 ^ exponent`, unless it is out of range. -/
def scaled? (significand : Nat) (exponent : Int) : Option Float :=
  let f := significand.toUInt64.toFloat
  if exponent < 0 then some (scaleDown f exponent.natAbs)
  else if exponent ≤ 308 then
    let f := f * powerOfTen exponent.toNat
    if f.isInf then none else some f
  else if significand = 0 then some f
  else none

/-- The first exponent that is not counted. -/
def exponentLimit : Nat := Nat.pow 2 31

/-- The magnitude of a number that is not whole. -/
def Parts.magnitude? (p : Parts) : Option Float := do
  let (significand, dropped) := accumulate 0 p.whole
  let (significand, point) := match p.fraction with
    | none => (significand, 0)
    | some digits =>
      let (significand, left) := accumulate significand digits
      (significand, digits.length - left)
  let start : Int := (dropped : Int) - point
  match p.exponent with
  | none => scaled? significand start
  | some (negative, digits) =>
    let shift := digits.foldl (fun n c => n * 10 + digitValue c) 0
    if shift < exponentLimit then
      scaled? significand (if negative then start - shift else start + shift)
    else if significand ≠ 0 ∧ ¬ negative then none
    else some 0

/-- A double with a sign. -/
def ofFloat (negative : Bool) (f : Float) : Number :=
  .float (if negative then -f else f).toBits

/-- The number with these parts, unless it is out of range. Minus zero is a double. -/
def Parts.number? (p : Parts) : Option Number :=
  let (significand, dropped) := accumulate 0 p.whole
  if p.fraction.isNone && p.exponent.isNone && dropped == 0 then
    if !p.negative then some (.int significand)
    else if significand ≠ 0 ∧ significand ≤ Nat.pow 2 63 then some (.int (-significand))
    else some (ofFloat true significand.toUInt64.toFloat)
  else p.magnitude?.map (ofFloat p.negative)

/-- Reads a number. -/
def ofText? (cs : List Char) : Option Number :=
  (Parts.ofText? cs).bind Parts.number?

/-! ## Text -/

/-- The text of a number. -/
def text : Number → List Char
  | .int n => (if n < 0 then ['-'] else []) ++ Nat.toDigits 10 n.natAbs
  | .float bits => floatText bits

end Watchtower.Number
