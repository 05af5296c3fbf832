-- Blank characters, and the two cuts made at them: the trim of a text and its words.

namespace Watchtower.Text

/-- The characters with the Unicode property White_Space. -/
def isBlank (c : Char) : Bool :=
  let n := c.toNat
  (9 ≤ n && n ≤ 13) || n == 0x20 || n == 0x85 || n == 0xa0 || n == 0x1680
    || (0x2000 ≤ n && n ≤ 0x200a) || n == 0x2028 || n == 0x2029 || n == 0x202f
    || n == 0x205f || n == 0x3000

/-! ## Trimming -/

/-- A list without the blank characters at its end. -/
def trimEndList : List Char → List Char
  | [] => []
  | c :: cs =>
    match trimEndList cs with
    | [] => if isBlank c then [] else [c]
    | d :: ds => c :: d :: ds

/-- A list without the blank characters at either end. -/
def trimList (cs : List Char) : List Char :=
  trimEndList (cs.dropWhile isBlank)

/-- A text without the blank characters at either end. -/
def trim (s : String) : String :=
  String.ofList (trimList s.toList)

/-- A text without the blank characters at its end. -/
def trimEnd (s : String) : String :=
  String.ofList (trimEndList s.toList)

/-! ## Words -/

/-- The words of a list, given the word that is being read. A word is a longest run of
characters that are not blank. -/
def wordsFrom (word : List Char) : List Char → List (List Char)
  | [] => if word.isEmpty then [] else [word]
  | c :: cs =>
    if isBlank c then
      if word.isEmpty then wordsFrom [] cs else word :: wordsFrom [] cs
    else wordsFrom (word ++ [c]) cs

/-- The words of a text, in order. None is empty and none holds a blank character. -/
def words (s : String) : List String :=
  (wordsFrom [] s.toList).map String.ofList

end Watchtower.Text
