import DataAccess.Sql.Identifier
import DataAccess.Sql.Statement

/-!
# `DataAccess.Sql.Dialect`: statements as text

The text of statements, for MySQL and for SQLite. The dialects differ
in their quotes, in the order of size and offset of a page, in a row
of defaults, and in writes: MySQL updates and deletes through joins,
SQLite picks the rows by their numbers in a query of its own.

* `Dialect.clauses`: the clauses after the table, in fixed order.
* `Dialect.rowRestriction`: the rows a write of SQLite means; all of
  them, without any clause.
* `Dialect.sql`: a statement.
-/

set_option autoImplicit false

namespace DataAccess.Dialect

/-- Texts with commas between them. -/
def commas (texts : List String) : String :=
  String.intercalate ", " texts

/-- A column, written out, and the same text as the label of its
value. -/
def labelled (d : Dialect) (column : String) : String :=
  column ++ " AS " ++ d.quote column

/-- A table under the alias of the root. -/
def rootTable (d : Dialect) (table : String) : String :=
  d.quote table ++ " " ++ Alias.main.text

theorem rootTable_eq (d : Dialect) (table : String) :
    d.rootTable table = d.quote table ++ " t_main" := by
  rw [rootTable, String.append_assoc]
  rfl

/-- One joined table. -/
def joinClause (d : Dialect) (j : JoinedTable) : String :=
  " LEFT JOIN " ++ d.quote j.table ++ " " ++ j.tableAlias.text ++ " ON "
    ++ (ColumnRef.mk j.tableAlias j.idColumn).text ++ " = "
    ++ (ColumnRef.mk j.baseAlias j.baseColumn).text

/-- All joined tables. -/
def joinClauses (d : Dialect) (joins : List JoinedTable) : String :=
  String.join (joins.map d.joinClause)

/-- A limit on the rows. -/
def limitClause (rows : UInt64) : String :=
  " LIMIT " ++ toString rows.toNat

/-- The rows of a page. -/
def pagingClause (d : Dialect) (p : Paging) : String :=
  let size := toString p.pageSize.toNat
  let offset := toString p.startIndex.toNat
  match d with
  | .mysql => " LIMIT " ++ offset ++ ", " ++ size
  | .sqlite => " LIMIT " ++ size ++ " OFFSET " ++ offset

/-- The rows of a window. -/
def windowClause (d : Dialect) : Window → String
  | .all => ""
  | .limit rows => limitClause rows
  | .page p => d.pagingClause p

/-- The conditions, if there are any. -/
def whereClause (conditions : List Condition) : String :=
  match whereSql? conditions with
  | none => ""
  | some sql => " WHERE " ++ sql

/-- The groupings, if there are any. -/
def groupClause (groupings : List ColumnRef) : String :=
  if groupings.isEmpty then "" else " GROUP BY " ++ commas (groupings.map (·.text))

/-- The orders, if there are any. -/
def orderClause (orders : List Order) : String :=
  if orders.isEmpty then "" else " ORDER BY " ++ commas (orders.map (·.sql))

/-- The clauses of a selection other than its joins. -/
def rowClauses (d : Dialect) (s : Selection) : String :=
  whereClause s.conditions ++ groupClause s.groupings ++ orderClause s.orders
    ++ d.windowClause s.window

/-- The clauses of a selection. -/
def clauses (d : Dialect) (s : Selection) : String :=
  d.joinClauses s.joins ++ d.rowClauses s

/-- The table of a selection and its clauses. -/
def source (d : Dialect) (s : Selection) : String :=
  d.rootTable s.table ++ d.clauses s

/-- Picks the rows of a selection by their numbers, unless it means all
rows of its table. -/
def rowRestriction (d : Dialect) (s : Selection) : String :=
  if d.rowClauses s = "" then ""
  else
    " WHERE rowid IN (SELECT " ++ Alias.main.text ++ ".rowid FROM " ++ d.source s ++ ")"

/-- An expression. -/
def expression : Expression → String
  | .column ref => ref.text
  | .text sql => sql

/-- Adds a row of defaults. -/
def emptyInsert (d : Dialect) (table : String) : String :=
  match d with
  | .mysql => "INSERT INTO " ++ d.quote table ++ " () VALUES ()"
  | .sqlite => "INSERT INTO " ++ d.quote table ++ " DEFAULT VALUES"

/-- Adds a row. -/
def insertText (d : Dialect) (table : String) (fields : List BoundField) : String :=
  if fields.isEmpty then d.emptyInsert table
  else
    "INSERT INTO " ++ d.quote table ++ " (" ++ commas (fields.map fun f => d.quote f.column)
      ++ ") VALUES (" ++ commas (fields.map fun _ => "?") ++ ")"

/-- The new value of a column. -/
def assignment (d : Dialect) (f : BoundField) : String :=
  match d with
  | .mysql => (ColumnRef.mk .main f.column).text ++ " = ?"
  | .sqlite => d.quote f.column ++ " = ?"

/-- Updates rows. -/
def updateText (d : Dialect) (s : Selection) (fields : List BoundField) : String :=
  let set := " SET " ++ commas (fields.map d.assignment)
  match d with
  | .mysql =>
    "UPDATE " ++ d.rootTable s.table ++ d.joinClauses s.joins ++ set ++ d.rowClauses s
  | .sqlite => "UPDATE " ++ d.quote s.table ++ set ++ d.rowRestriction s

/-- Deletes rows. -/
def deleteText (d : Dialect) (s : Selection) : String :=
  match d with
  | .mysql => "DELETE " ++ Alias.main.text ++ " FROM " ++ d.source s
  | .sqlite => "DELETE FROM " ++ d.quote s.table ++ d.rowRestriction s

/-- The text of a statement. -/
def text (d : Dialect) : Statement → String
  | .find rows columns =>
    "SELECT " ++ commas (columns.map fun c => d.labelled c.text) ++ " FROM " ++ d.source rows
  | .project rows expressions =>
    "SELECT " ++ commas (expressions.map expression) ++ " FROM " ++ d.source rows
  | .count rows => "SELECT COUNT(1) FROM " ++ d.source rows
  | .exist rows => "SELECT 1 FROM " ++ d.source rows
  | .update rows fields => d.updateText rows fields
  | .delete rows => d.deleteText rows
  | .insert table fields => d.insertText table fields
  | .raw text _ => text

/-- The text of a statement with the values of its placeholders. -/
def sql (d : Dialect) (s : Statement) : Sql :=
  ⟨d.text s, s.params⟩

end DataAccess.Dialect
