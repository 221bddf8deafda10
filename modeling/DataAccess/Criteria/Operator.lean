/-!
# `DataAccess.Criteria.Operator`: operators of conditions

The comparisons of filters, the connectors between conditions, and the
directions of orders, as they are written in statements.
-/

set_option autoImplicit false

namespace DataAccess

/-- How a filter compares a column. -/
inductive Comparison where
  | equal
  | notEqual
  | greaterThan
  | greaterThanOrEqual
  | lessThan
  | lessThanOrEqual
  | membership
  | like
  deriving DecidableEq, Repr

/-- The name of a comparison. -/
def Comparison.name : Comparison → String
  | .equal => "Equal"
  | .notEqual => "NotEqual"
  | .greaterThan => "GreaterThan"
  | .greaterThanOrEqual => "GreaterThanOrEqual"
  | .lessThan => "LessThan"
  | .lessThanOrEqual => "LessThanOrEqual"
  | .membership => "In"
  | .like => "Like"

/-- Every comparison. -/
def Comparison.all : List Comparison :=
  [.equal, .notEqual, .greaterThan, .greaterThanOrEqual, .lessThan, .lessThanOrEqual,
    .membership, .like]

/-- The comparison of a name. -/
def Comparison.ofName? (name : String) : Option Comparison :=
  all.find? fun c => c.name == name

/-- A comparison in a statement. -/
def Comparison.sql : Comparison → String
  | .equal => "="
  | .notEqual => "<>"
  | .greaterThan => ">"
  | .greaterThanOrEqual => ">="
  | .lessThan => "<"
  | .lessThanOrEqual => "<="
  | .membership => "IN"
  | .like => "LIKE"

/-- What joins a condition to the one before it. -/
inductive Connector where
  | and
  | or
  deriving DecidableEq, Repr

/-- A connector in a statement. -/
def Connector.sql : Connector → String
  | .and => "AND"
  | .or => "OR"

/-- The direction of an order. -/
inductive Direction where
  | ascending
  | descending
  deriving DecidableEq, Repr

/-- A direction in a statement. -/
def Direction.sql : Direction → String
  | .ascending => "ASC"
  | .descending => "DESC"

end DataAccess
