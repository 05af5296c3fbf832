-- The spellings of a declared name: a type name, a member name and a constant name.
import Watchtower.Text.Cased
import Watchtower.Text.Split

namespace Watchtower.Naming

open Watchtower.Text

/-- The characters between the words of a declared name. -/
def isJoint (c : Char) : Bool :=
  c == '_' || c == '-' || c == '.'

/-- A word with its first character in upper case. -/
def capitalize : List Char → List Char
  | [] => []
  | c :: cs => upperChar c ++ cs

/-- The spelling of a type: each word with a capital, and no joints. -/
def pascal (s : String) : String :=
  String.ofList ((splitList isJoint s.toList).flatMap capitalize)

/-- The member spelling of a list. A capital begins a new word, with an underscore before it
unless it stands at the beginning or behind a joint, which `fresh` tells. -/
def snakeList (fresh : Bool) : List Char → List Char
  | [] => []
  | c :: cs =>
    if isUpper c then (if fresh then [] else ['_']) ++ lowerChar c ++ snakeList false cs
    else if isJoint c then '_' :: snakeList true cs
    else c :: snakeList false cs

/-- The spelling of a member: words in lower case, parted by underscores. -/
def snake (s : String) : String :=
  String.ofList (snakeList true s.toList)

/-- The spelling of a constant: the member spelling in upper case. -/
def screaming (s : String) : String :=
  String.ofList ((snake s).toList.flatMap upperChar)

/-- The words that generated code cannot use as they are. -/
def keywords : List String := [
  "as", "async", "await", "break", "const", "continue", "crate", "dyn", "else", "enum", "extern",
  "false", "fn", "for", "if", "impl", "in", "let", "loop", "match", "mod", "move", "mut", "pub",
  "ref", "return", "static", "struct", "super", "trait", "true", "type", "unsafe", "use", "where",
  "while", "yield"]

/-- The identifier of a member: its spelling, marked as raw where it is a keyword. -/
def ident (s : String) : String :=
  let name := snake s
  if keywords.contains name then "r#" ++ name else name

end Watchtower.Naming
