-- Cutting a text into pieces and joining pieces to a text.

namespace Watchtower.Text

/-! ## Pieces between separators -/

/-- The pieces of a list between the characters that `p` picks. There is always one piece
more than there are such characters. -/
def splitList (p : Char → Bool) : List Char → List (List Char)
  | [] => [[]]
  | c :: cs =>
    if p c then [] :: splitList p cs
    else
      match splitList p cs with
      | [] => [[c]]
      | piece :: pieces => (c :: piece) :: pieces

/-- The pieces of a text between the characters that `p` picks. -/
def split (p : Char → Bool) (s : String) : List String :=
  (splitList p s.toList).map String.ofList

/-- The pieces of a text between its dots. -/
def dotted (s : String) : List String :=
  split (· == '.') s

/-- The last piece of a text between the characters that `p` picks. -/
def lastPiece (p : Char → Bool) (s : String) : String :=
  (split p s).getLastD ""

/-- The last piece of a text between its dots. -/
def lastDotted (s : String) : String :=
  lastPiece (· == '.') s

/-! ## Joining -/

/-- The texts one after the other, with `sep` between two of them. -/
def join (sep : String) : List String → String
  | [] => ""
  | [s] => s
  | s :: rest => s ++ sep ++ join sep rest

/-- A text repeated `n` times. -/
def times (n : Nat) (s : String) : String :=
  join "" (List.replicate n s)

/-! ## Lines -/

/-- A line without the carriage return before its line feed. -/
def dropReturn (cs : List Char) : List Char :=
  if cs.getLast? == some '\r' then cs.dropLast else cs

/-- The lines of a list: a line ends with a line feed, or a carriage return and a line feed.
A last line without its end counts when it is not empty. -/
def linesList : List (List Char) → List (List Char)
  | [] => []
  | [last] => if last.isEmpty then [] else [last]
  | line :: rest => dropReturn line :: linesList rest

/-- The lines of a text. -/
def lines (s : String) : List String :=
  (linesList (splitList (· == '\n') s.toList)).map String.ofList

/-! ## Beginnings -/

/-- What follows `head` in `s`, if `s` begins with it. -/
def after? (head s : String) : Option String :=
  if head.toList.isPrefixOf s.toList then some (String.ofList (s.toList.drop head.length)) else none

/-- The text begins with `head`. -/
def startsWith (s head : String) : Bool :=
  head.toList.isPrefixOf s.toList

/-- The text ends with `tail`. -/
def endsWith (s tail : String) : Bool :=
  tail.toList.isSuffixOf s.toList

end Watchtower.Text
