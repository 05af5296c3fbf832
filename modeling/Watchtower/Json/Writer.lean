-- The text of JSON values: compact on one line, or spread over lines with two blanks of
-- indentation for each level.
import Watchtower.Json.Number

namespace Watchtower.Json

/-! ## Strings -/

/-- A hexadecimal digit in lower case. -/
def hexDigit (n : Nat) : Char := Nat.digitChar (n % 16)

/-- One character of a string. Only quotes, backslashes and control characters are escaped. -/
def escapeChar (c : Char) : List Char :=
  if c == '"' then ['\\', '"']
  else if c == '\\' then ['\\', '\\']
  else if c == '\x08' then ['\\', 'b']
  else if c == '\x0c' then ['\\', 'f']
  else if c == '\n' then ['\\', 'n']
  else if c == '\r' then ['\\', 'r']
  else if c == '\t' then ['\\', 't']
  else if c.toNat < 0x20 then ['\\', 'u', '0', '0', hexDigit (c.toNat / 16), hexDigit c.toNat]
  else [c]

/-- A string in quotes. -/
def stringText (s : String) : List Char :=
  '"' :: s.toList.flatMap escapeChar ++ ['"']

/-! ## Compact text -/

mutual

/-- The compact text of a value. -/
def compactList : Json → List Char
  | .null => "null".toList
  | .bool true => "true".toList
  | .bool false => "false".toList
  | .num n => n.text
  | .str s => stringText s
  | .arr items => '[' :: compactItems items ++ [']']
  | .obj fields => '\x7b' :: compactFields fields ++ ['\x7d']

/-- The compact texts of the items of an array, with commas between them. -/
def compactItems : List Json → List Char
  | [] => []
  | [item] => compactList item
  | item :: rest => compactList item ++ ',' :: compactItems rest

/-- The compact texts of the fields of an object, with commas between them. -/
def compactFields : List (String × Json) → List Char
  | [] => []
  | [(name, value)] => stringText name ++ ':' :: compactList value
  | (name, value) :: rest =>
    stringText name ++ ':' :: compactList value ++ ',' :: compactFields rest

end

/-- The text of a value on one line, without blanks. -/
def compact (v : Json) : String := String.ofList (compactList v)

/-! ## Spread text -/

/-- The beginning of a line at a level of indentation. -/
def newline (level : Nat) : List Char :=
  '\n' :: List.replicate (2 * level) ' '

mutual

/-- The text of a value spread over lines, where the value stands at `level`. -/
def prettyList (level : Nat) : Json → List Char
  | .arr (item :: items) =>
    '[' :: prettyItems (level + 1) (item :: items) ++ newline level ++ [']']
  | .obj (field :: fields) =>
    '\x7b' :: prettyFields (level + 1) (field :: fields) ++ newline level ++ ['\x7d']
  | .arr [] => ['[', ']']
  | .obj [] => ['\x7b', '\x7d']
  | .null => "null".toList
  | .bool true => "true".toList
  | .bool false => "false".toList
  | .num n => n.text
  | .str s => stringText s

/-- The items of an array, each on a line of its own. -/
def prettyItems (level : Nat) : List Json → List Char
  | [] => []
  | [item] => newline level ++ prettyList level item
  | item :: rest => newline level ++ prettyList level item ++ ',' :: prettyItems level rest

/-- The fields of an object, each on a line of its own. -/
def prettyFields (level : Nat) : List (String × Json) → List Char
  | [] => []
  | [(name, value)] => newline level ++ stringText name ++ [':', ' '] ++ prettyList level value
  | (name, value) :: rest =>
    newline level ++ stringText name ++ [':', ' '] ++ prettyList level value
      ++ ',' :: prettyFields level rest

end

/-- The text of a value spread over lines. -/
def pretty (v : Json) : String := String.ofList (prettyList 0 v)

end Watchtower.Json
