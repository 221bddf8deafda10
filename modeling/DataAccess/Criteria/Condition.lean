import DataAccess.Criteria.Alias
import DataAccess.Criteria.Operator
import DataAccess.Value.Basic

/-!
# `DataAccess.Criteria.Condition`: conditions and orders of a query

The resolved parts of a query, as they go into a statement: conditions
with the values of their placeholders, and orders.

* `Condition.sql`: a condition. A filter on membership has a
  placeholder for each of its values, any other filter has one; a
  template stands in parentheses.
* `whereSql`: all conditions, each joined to the ones before it by its
  connector.
-/

set_option autoImplicit false

namespace DataAccess

/-- What a condition says. -/
inductive Clause where
  /-- A column compares so with the values. -/
  | filter (column : ColumnRef) (comparison : Comparison)
  /-- A text, its references replaced. -/
  | template (text : String)
  deriving DecidableEq, Repr

/-- A condition of a query. -/
structure Condition where
  /-- What joins it to the conditions before it. -/
  connector : Connector
  /-- What it says. -/
  clause : Clause
  /-- The values of its placeholders, in order. -/
  values : List Value

/-- A condition in a statement. -/
def Condition.sql (c : Condition) : String :=
  match c.clause with
  | .filter column .membership =>
    let marks := List.replicate c.values.length "?"
    column.text ++ " IN (" ++ String.intercalate ", " marks ++ ")"
  | .filter column comparison => column.text ++ " " ++ comparison.sql ++ " ?"
  | .template text => "(" ++ text ++ ")"

/-- Conditions in a statement, unless there are none. -/
def whereSql? : List Condition → Option String
  | [] => none
  | c :: cs =>
    some (cs.foldl (fun sql d => sql ++ " " ++ d.connector.sql ++ " " ++ d.sql) c.sql)

/-- An order of rows by a column. -/
structure Order where
  column : ColumnRef
  direction : Direction
  deriving DecidableEq, Repr

/-- An order in a statement. -/
def Order.sql (o : Order) : String :=
  o.column.text ++ " " ++ o.direction.sql

end DataAccess
