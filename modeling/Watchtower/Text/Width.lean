-- How many columns of a terminal a text takes, and padding to a number of columns.
import Watchtower.Text.Width.Table

namespace Watchtower.Text

/-- The columns that a character takes. -/
def charWidth (c : Char) : Nat :=
  let n := c.toNat
  if n < 0x300 then if n == 0xad then 0 else 1
  else if Width.zero.any fun (first, last) => first ≤ n && n ≤ last then 0
  else if Width.wide.any fun (first, last) => first ≤ n && n ≤ last then 2
  else 1

/-- The columns that a text takes. -/
def width (s : String) : Nat :=
  s.toList.foldl (fun columns c => columns + charWidth c) 0

/-- A text with blanks after it, so that it takes at least `columns` columns. -/
def padToWidth (columns : Nat) (s : String) : String :=
  s ++ String.ofList (List.replicate (columns - width s) ' ')

/-- A text with blanks after it, so that it has at least `count` characters. -/
def padToLength (count : Nat) (s : String) : String :=
  s ++ String.ofList (List.replicate (count - s.length) ' ')

end Watchtower.Text
