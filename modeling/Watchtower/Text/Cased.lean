-- Upper and lower case of characters and texts, with the full mappings: one character may
-- become two or three.
import Watchtower.Text.Cased.Table

namespace Watchtower.Text

/-- Looks a code point up in a list of runs, and shifts it by the run it lies in. -/
def Cased.shift? (n : Nat) : List (Nat × Nat × Nat × Int) → Option Nat
  | [] => none
  | (first, last, stride, delta) :: runs =>
    if first ≤ n && n ≤ last && (n - first) % stride == 0 then some (n + delta).toNat
    else Cased.shift? n runs

/-- The case of a code point beyond ASCII, by a table of long mappings and one of runs. -/
def Cased.mapped (long : List (Nat × List Nat)) (runs : List (Nat × Nat × Nat × Int)) (c : Char) :
    List Char :=
  match long.lookup c.toNat with
  | some ns => ns.map Char.ofNat
  | none =>
    match Cased.shift? c.toNat runs with
    | some n => [Char.ofNat n]
    | none => [c]

/-- The upper case of a character. -/
def upperChar (c : Char) : List Char :=
  if c.toNat < 0x80 then [c.toUpper] else Cased.mapped Cased.upperLong Cased.upperRuns c

/-- The lower case of a character. -/
def lowerChar (c : Char) : List Char :=
  if c.toNat < 0x80 then [c.toLower] else Cased.mapped Cased.lowerLong Cased.lowerRuns c

/-- The characters with the property Uppercase. Title case letters do not have it. -/
def isUpper (c : Char) : Bool :=
  if c.toNat < 0x80 then c.isUpper
  else Cased.upperCase.any fun (first, last, stride) =>
    first ≤ c.toNat && c.toNat ≤ last && (c.toNat - first) % stride == 0

end Watchtower.Text
