-- Specifiers: boolean filters over the changes of a variable.
import Watchtower.Source.Expr

namespace Watchtower.Source

/-- How a reading is compared with a threshold. -/
inductive Relation where
  | above
  | below
  | equal
deriving DecidableEq, Repr

/-- The operator of a relation. -/
def Relation.symbol : Relation → String
  | .above => ">"
  | .below => "<"
  | .equal => "=="

/-- How two filters are joined. -/
inductive Connective where
  | and
  | or
deriving DecidableEq, Repr

/-- The operator of a connective. -/
def Connective.symbol : Connective → String
  | .and => "&&"
  | .or => "||"

/-- A filter: a comparison with a threshold, of the reading itself or of its change in
percent, or two filters joined. -/
inductive Specifier where
  | leaf (relation : Relation) (value : Expr) (percentage : Bool)
  | node (connective : Connective) (left right : Specifier)
deriving DecidableEq, Repr

end Watchtower.Source
