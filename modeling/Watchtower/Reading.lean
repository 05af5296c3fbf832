-- Readings: the JSON values of variables taken as decimals, and the two measures that
-- percentage thresholds compare.
import Watchtower.Decimal.Arith
import Watchtower.Decimal.Reader
import Watchtower.Fault
import Watchtower.Json.Writer
import Watchtower.Text.Blank

namespace Watchtower.Reading

/-- Reads a decimal, or tells that the text is none. -/
def ofText (text : String) : Except Fault Decimal :=
  match Decimal.ofText? text with
  | some d => .ok d
  | none => .error (.notNumeric text)

/-- The decimal of a value. Numbers are taken by their text, and strings without the blanks
around them. -/
def numeric : Json → Except Fault Decimal
  | .num n => ofText (String.ofList n.text)
  | .str s => ofText (Text.trim s)
  | other => .error (.notNumeric other.compact)

/-- How far a value moved, in either direction. -/
def changeDelta (previous current : Json) : Except Fault Decimal := do
  let previous ← numeric previous
  let current ← numeric current
  match previous.sub? current with
  | some delta => .ok delta.abs
  | none => .error (.overflow (previous.text ++ " - " ++ current.text))

/-- `percent` percent of a value. -/
def percentageOf (base : Json) (percent : Decimal) : Except Fault Decimal := do
  let base ← numeric base
  match Decimal.percentOf? percent base with
  | some part => .ok part
  | none => .error (.overflow (percent.text ++ "% of " ++ base.text))

/-- The value of a decimal: a whole number of 64 bits where it is one, else its shortest
text. -/
def ofDecimal (d : Decimal) : Json :=
  let d := d.normalize
  if d.scale = 0 ∧ -9223372036854775808 ≤ d.coefficient ∧ d.coefficient ≤ 9223372036854775807 then
    .ofInt d.coefficient
  else .str d.text

end Watchtower.Reading
