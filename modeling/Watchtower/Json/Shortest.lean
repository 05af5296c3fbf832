-- The text of a double: the fewest digits that read back as the same double.

namespace Watchtower.Number

/-- A positive double as `mantissa * 2 ^ exponent`. The flag tells that the gap below it is
half the gap above it. -/
structure Binary where
  mantissa : Nat
  exponent : Int
  narrowBelow : Bool

/-- The double with these bits, without its sign. -/
def Binary.ofBits (bits : UInt64) : Binary :=
  let fraction : Nat := bits.toNat % Nat.pow 2 52
  let biased : Nat := bits.toNat / Nat.pow 2 52 % Nat.pow 2 11
  if biased = 0 then ⟨fraction, -1074, false⟩
  else ⟨Nat.pow 2 52 + fraction, (biased : Int) - 1075, fraction = 0 && biased > 1⟩

/-- A positive rational number. -/
structure Ratio where
  num : Nat
  den : Nat

/-- The number `n * 2 ^ e`. -/
def Ratio.ofBinary (n : Nat) (e : Int) : Ratio :=
  if e ≥ 0 then ⟨n * Nat.pow 2 e.toNat, 1⟩ else ⟨n, Nat.pow 2 (-e).toNat⟩

/-- The exponent of the highest power of ten that is not above the number. -/
def Ratio.magnitude (r : Ratio) : Int :=
  if r.num ≥ r.den then (Nat.toDigits 10 (r.num / r.den)).length - 1
  else
    let count := (Nat.toDigits 10 (r.den / r.num)).length
    if r.num * Nat.pow 10 (count - 1) = r.den then 1 - (count : Int) else -count

/-- Compares the number with `n * 10 ^ e`. -/
def Ratio.compareTo (r : Ratio) (n : Nat) (e : Int) : Ordering :=
  if e ≥ 0 then Ord.compare r.num (n * Nat.pow 10 e.toNat * r.den)
  else Ord.compare (r.num * Nat.pow 10 (-e).toNat) (n * r.den)

/-- The number divided by `10 ^ e`, rounded down. -/
def Ratio.floorAt (r : Ratio) (e : Int) : Nat :=
  if e ≥ 0 then r.num / (r.den * Nat.pow 10 e.toNat) else r.num * Nat.pow 10 (-e).toNat / r.den

/-- The point `n * 10 ^ e` reads back as the double: it lies between the middles of the gaps
beside it, and on one of them only if the mantissa is even. -/
def Binary.readsBack (b : Binary) (n : Nat) (e : Int) : Bool :=
  let low := Ratio.ofBinary (4 * b.mantissa - (if b.narrowBelow then 1 else 2)) (b.exponent - 2)
  let high := Ratio.ofBinary (4 * b.mantissa + 2) (b.exponent - 2)
  let even := b.mantissa % 2 = 0
  (low.compareTo n e == .lt || (even && low.compareTo n e == .eq))
    && (high.compareTo n e == .gt || (even && high.compareTo n e == .eq))

/-- Of the two neighbours of the double among the multiples of `10 ^ e`, the one that reads
back; of two that do, the nearer. -/
def Binary.pointAt? (b : Binary) (e : Int) : Option Nat :=
  let value := Ratio.ofBinary b.mantissa b.exponent
  let below := value.floorAt e
  let above := below + 1
  match b.readsBack below e, b.readsBack above e with
  | true, false => some below
  | false, true => some above
  | false, false => none
  | true, true =>
    -- The middle of the two neighbours decides; on the middle the even one is taken.
    match (Ratio.mk (value.num * 2) value.den).compareTo (below + above) e with
    | .lt => some below
    | .gt => some above
    | .eq => some (if below % 2 = 0 then below else above)

/-- The point with the fewest digits that reads back, from `digits` digits on. -/
def Binary.shortestFrom (b : Binary) (magnitude : Int) (digits : Nat) : Nat → Nat × Int
  | 0 => (0, 0)
  | more + 1 =>
    let e := magnitude - digits + 1
    match b.pointAt? e with
    | some n => (n, e)
    | none => shortestFrom b magnitude (digits + 1) more

/-- The shortest decimal `n * 10 ^ e` that reads back as the double. Seventeen digits are
always enough. -/
def Binary.shortest (b : Binary) : Nat × Int :=
  shortestFrom b (Ratio.ofBinary b.mantissa b.exponent).magnitude 1 17

/-! ## Layout -/

/-- Drops the zeros at the end of a list of digits, and counts them. -/
def dropZeros (digits : List Char) : List Char × Nat :=
  let kept := (digits.reverse.dropWhile (· == '0')).reverse
  (kept, digits.length - kept.length)

/-- The text of `digits * 10 ^ e`. Numbers from 0.00001 up to 10 ^ 16 are written with a point
and at least one place, all others with an exponent. -/
def layout (digits : List Char) (e : Int) : List Char :=
  let point := digits.length + e
  let exponent := point - 1
  if -5 ≤ exponent ∧ exponent < 16 then
    if e ≥ 0 then digits ++ List.replicate e.toNat '0' ++ ['.', '0']
    else if point > 0 then digits.take point.toNat ++ '.' :: digits.drop point.toNat
    else ['0', '.'] ++ List.replicate (-point).toNat '0' ++ digits
  else
    let places := digits.drop 1
    digits.take 1 ++ (if places.isEmpty then [] else '.' :: places) ++ ['e']
      ++ [if exponent < 0 then '-' else '+'] ++ Nat.toDigits 10 exponent.natAbs

/-- The text of a finite double. -/
def floatText (bits : UInt64) : List Char :=
  let sign := if bits.toNat ≥ Nat.pow 2 63 then ['-'] else []
  if bits.toNat % Nat.pow 2 63 = 0 then sign ++ ['0', '.', '0']
  else
    let (n, e) := (Binary.ofBits bits).shortest
    let (digits, zeros) := dropZeros (Nat.toDigits 10 n)
    sign ++ layout digits (e + zeros)

end Watchtower.Number
