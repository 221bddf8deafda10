/-!
# `DataAccess.Criteria.Alias`: names of tables in a statement

Every table of a statement has an alias that says where it stands in
the tree of joins: the root is `t_main`, the second join that hangs
off it is `t_2`, and the first one that hangs off that one is `t_2_1`.

* `Alias.text`: the alias in a statement.
* `ColumnRef`: a column of an aliased table.
-/

set_option autoImplicit false

namespace DataAccess

/-- The place of a table in the tree of joins: for each step from the
root, which of the joins there was taken, counted from 1. -/
structure Alias where
  /-- The steps from the root. -/
  steps : List Nat
  deriving DecidableEq, Repr

namespace Alias

/-- The alias of the root. -/
def main : Alias := ⟨[]⟩

/-- The `n`-th alias under `a`, where the steps of `a` count only as far
as `depth`. -/
def child (a : Alias) (depth n : Nat) : Alias :=
  ⟨a.steps.take depth ++ [n]⟩

/-- The alias in a statement. -/
def text (a : Alias) : String :=
  match a.steps with
  | [] => "t_main"
  | steps => "t_" ++ String.intercalate "_" (steps.map toString)

end Alias

/-- A column of an aliased table. -/
structure ColumnRef where
  table : Alias
  column : String
  deriving DecidableEq, Repr

/-- The column in a statement, and the label of its value in a row. -/
def ColumnRef.text (c : ColumnRef) : String :=
  c.table.text ++ "." ++ c.column

end DataAccess
