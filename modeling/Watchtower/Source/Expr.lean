-- Expressions of the monitored application: literals, chains of features, and text in the
-- target language.
import Watchtower.Json.Writer
import Watchtower.Text.Blank
import Watchtower.Text.Quoted

namespace Watchtower.Source

/-- A literal. A number keeps its notation. -/
inductive Literal where
  | number (text : String)
  | string (text : String)
  | bool (value : Bool)
  | null
deriving DecidableEq, Repr

/-- The value of a literal. A number that is no JSON number stays a text. -/
def Literal.value : Literal → Json
  | .number text =>
    match Number.ofText? (Text.trimList text.toList) with
    | some n => .num n
    | none => .str text
  | .string text => .str text
  | .bool b => .bool b
  | .null => .null

/-- The source text of a literal. -/
def Literal.text : Literal → String
  | .number text => text
  | .string text => Text.quoted text
  | .bool true => "true"
  | .bool false => "false"
  | .null => "null"

/-- An expression. A feature without receiver begins a chain; each feature may know the class
that declares it. -/
inductive Expr where
  | literal (value : Literal)
  | root (feature : String) (declaredClass : Option String)
  | member (receiver : Expr) (feature : String) (declaredClass : Option String)
  | source (text : String)
deriving DecidableEq, Repr

namespace Expr

/-- The source text of an expression. -/
def text : Expr → String
  | .literal value => value.text
  | .root feature _ => feature
  | .member receiver feature _ => receiver.text ++ "." ++ feature
  | .source text => text

/-- The chain of features that continues `receiver`. -/
def extend (receiver : Expr) : List String → Expr
  | [] => receiver
  | feature :: rest => extend (.member receiver feature none) rest

/-- The chain of the features, in the order in which they are read. -/
def chain : List String → Expr
  | [] => .source ""
  | feature :: rest => extend (.root feature none) rest

/-- The target text that computes the value of an expression. -/
def valueText : Expr → String
  | .literal value =>
    match value.value with
    | .str s => "json!(" ++ Text.quoted s ++ ")"
    | other => "json!(" ++ other.compact ++ ")"
  | e => "Value::from(" ++ e.text ++ ")"

end Expr

end Watchtower.Source
