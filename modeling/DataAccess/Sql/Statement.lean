import DataAccess.Criteria.Basic
import DataAccess.Schema.Model

/-!
# `DataAccess.Sql.Statement`: statements

What is sent to a database, before it is written down. A `Selection`
says which rows of a table, with the tables joined to it, are meant
and in which order; a `Statement` says what happens to them.

* `Criteria.selection`: the selection of a criteria.
* `Statement`: the statements.
* `Statement.params`: the values of the placeholders, in the order in
  which the text of the statement has them, in every dialect.
-/

set_option autoImplicit false

namespace DataAccess

variable {ι : Type}

/-- A table joined to another one of the same selection. -/
structure JoinedTable where
  table : String
  tableAlias : Alias
  /-- The column of its identities. -/
  idColumn : String
  /-- The table it is joined to. -/
  baseAlias : Alias
  /-- The column there that holds the identity. -/
  baseColumn : String
  deriving DecidableEq, Repr

/-- How many of the rows are wanted. -/
inductive Window where
  /-- All of them. -/
  | all
  /-- So many. -/
  | limit (rows : UInt64)
  /-- Those of a page. -/
  | page (paging : Paging)
  deriving DecidableEq, Repr

/-- Rows of a table. -/
structure Selection where
  table : String
  /-- The tables joined to it. -/
  joins : List JoinedTable
  /-- What holds for the rows. -/
  conditions : List Condition
  /-- The columns the rows are grouped by. -/
  groupings : List ColumnRef
  /-- The order of the rows. -/
  orders : List Order
  /-- How many of them. -/
  window : Window

namespace Criteria

/-- The window of a criteria: its page if that is on, or else its
limit. -/
def window (c : Criteria ι) : Window :=
  match c.paging.filter (·.enabled), c.limit with
  | some paging, _ => .page paging
  | none, some rows => .limit rows
  | none, none => .all

/-- The tables a criteria joins. -/
def joinedTables (schema : Schema ι) (c : Criteria ι) : List JoinedTable :=
  c.joins.joins.map fun j =>
    ⟨(schema j.target).table, j.tableAlias, j.idColumn, j.baseAlias, j.baseColumn⟩

/-- The rows that a criteria means. -/
def selection (schema : Schema ι) (c : Criteria ι) : Selection where
  table := (schema c.root).table
  joins := c.joinedTables schema
  conditions := c.conditions
  groupings := c.groupings
  orders := c.orders
  window := c.window

/-- All columns of the root and of the joined tables. -/
def projection (schema : Schema ι) (c : Criteria ι) : List ColumnRef :=
  let columns (table : Alias) (k : ι) := (schema k).fields.map fun f => ⟨table, f.column⟩
  columns .main c.root ++ c.joins.joins.flatMap fun j => columns j.tableAlias j.target

end Criteria

/-- What is read from a row. -/
inductive Expression where
  /-- The value of a column. -/
  | column (ref : ColumnRef)
  /-- The value of what a text says. -/
  | text (sql : String)
  deriving DecidableEq, Repr

/-- A statement. -/
inductive Statement where
  /-- Read columns of rows, each labelled by its name. -/
  | find (rows : Selection) (columns : List ColumnRef)
  /-- Read expressions of rows. -/
  | project (rows : Selection) (expressions : List Expression)
  | count (rows : Selection)
  /-- See whether there are rows. -/
  | exist (rows : Selection)
  /-- Give columns of rows new values. -/
  | update (rows : Selection) (fields : List BoundField)
  | delete (rows : Selection)
  /-- Add a row with values for some of its columns. -/
  | insert (table : String) (fields : List BoundField)
  /-- What a text says. -/
  | raw (text : String) (params : List Value)

/-- The values of the placeholders of a selection. -/
def Selection.params (s : Selection) : List Value :=
  s.conditions.flatMap (·.values)

/-- The values of the placeholders of a statement: those of the fields
come before those of the conditions. -/
def Statement.params : Statement → List Value
  | .find rows _ => rows.params
  | .project rows _ => rows.params
  | .count rows => rows.params
  | .exist rows => rows.params
  | .update rows fields => fields.map (·.value) ++ rows.params
  | .delete rows => rows.params
  | .insert _ fields => fields.map (·.value)
  | .raw _ params => params

namespace Criteria

/-- Reads the entities of a criteria and those fetched along. -/
def find (schema : Schema ι) (c : Criteria ι) : Statement :=
  .find (c.selection schema) (c.projection schema)

/-- Reads columns of the entities of a criteria. -/
def project (schema : Schema ι) (c : Criteria ι) (columns : List ColumnRef) : Statement :=
  .project (c.selection schema) (columns.map .column)

/-- Counts the entities of a criteria. -/
def count (schema : Schema ι) (c : Criteria ι) : Statement :=
  .count (c.selection schema)

/-- Sees whether a criteria has entities. -/
def exist (schema : Schema ι) (c : Criteria ι) : Statement :=
  .exist (c.selection schema)

/-- Gives fields of the entities of a criteria new values. -/
def update (schema : Schema ι) (c : Criteria ι) (fields : List BoundField) : Statement :=
  .update (c.selection schema) fields

/-- Deletes the entities of a criteria. -/
def delete (schema : Schema ι) (c : Criteria ι) : Statement :=
  .delete (c.selection schema)

end Criteria

/-- The text of a statement and the values of its placeholders. -/
structure Sql where
  text : String
  params : List Value := []

namespace Sql

/-- The statement with more text at its end. -/
def append (s : Sql) (fragment : String) : Sql :=
  { s with text := s.text ++ fragment }

/-- The statement with one more value. -/
def bind (s : Sql) (value : Value) : Sql :=
  { s with params := s.params ++ [value] }

end Sql

end DataAccess
