-- Cron expressions. Only their form is checked: five to seven fields, each made of letters,
-- digits and operators, with no operator left dangling.
import Watchtower.Fault
import Watchtower.Text.Blank

namespace Watchtower

/-- A cron expression whose form was checked. -/
structure Cron where
  /-- The expression without the blanks around it. -/
  source : String
  fields : List String
deriving DecidableEq, Repr

namespace Cron

/-- The characters of a field. -/
def isFieldChar (c : Char) : Bool :=
  c.isAlphanum || c == '*' || c == '?' || c == ',' || c == '-' || c == '/' || c == '#'

/-- The operators that need something on both sides. -/
def isOperator (c : Char) : Bool :=
  c == '/' || c == ',' || c == '-'

/-- What is wrong with a field, if anything. -/
def fieldFlaw (field : String) : Option String :=
  let cs := field.toList
  if !cs.all isFieldChar then some ("unexpected character in field '" ++ field ++ "'")
  else if cs.head?.any isOperator || cs.getLast?.any isOperator then
    some ("dangling operator in field '" ++ field ++ "'")
  else none

/-- What is wrong with the fields of an expression, if anything. The first flaw counts. -/
def flaw (fields : List String) : Option String :=
  if fields.length < 5 ∨ 7 < fields.length then
    some ("expected 5 to 7 fields, found " ++ toString fields.length)
  else fields.findSome? fieldFlaw

/-- Reads a cron expression. -/
def parse (expression : String) : Except Fault Cron :=
  let fields := Text.words expression
  match flaw fields with
  | some reason => .error (.invalidCron expression reason)
  | none => .ok ⟨Text.trim expression, fields⟩

end Cron

end Watchtower
