import DataAccess.Text.Blank
import DataAccess.Value.Extraction

/-!
# `DataAccess.Row`: rows of results

A row that a query gave back: its columns in order, each with its
value. Column names may repeat.

* `Row.at?`, `Row.named`: the value at a place or under a name. Of
  several columns, the first of exactly that name counts, and only if
  there is none, the first whose name differs in the case of ASCII
  letters at most.
* `Row.get`, `Row.getIfPresent`: the same, read as a type.
* `Row.toMap`, `Row.toJson`: all columns by name; of several columns
  of one name the last one counts.
* `FromRow`: the types that a row can be read as.
-/

set_option autoImplicit false

namespace DataAccess

/-- A row of a result. -/
structure Row where
  /-- The columns, each with its value. -/
  cells : List (String × Value)

namespace Row

/-- The row of the given columns and values. -/
def of (columns : List String) (values : List Value) : Row :=
  ⟨columns.zip values⟩

/-- The names of the columns. -/
def columns (r : Row) : List String :=
  r.cells.map (·.1)

/-- The values of the columns. -/
def values (r : Row) : List Value :=
  r.cells.map (·.2)

/-- The value of the first column. -/
def first? (r : Row) : Option Value :=
  r.values.head?

/-- No column of the row answers to this name or number. -/
def unknown {α : Type} (column : String) : Result α :=
  .error (.invalidField "row" column)

/-- The value at a place, counted from 0. -/
def at? (r : Row) (index : Nat) : Result Value :=
  match r.values[index]? with
  | some v => .ok v
  | none => unknown (toString index)

/-- The cell that answers to a name. -/
def find? (r : Row) (name : String) : Option (String × Value) :=
  (r.cells.find? (·.1 == name)).or
    (r.cells.find? fun cell => Text.sameIgnoringCase cell.1 name)

/-- The value under a name. -/
def named (r : Row) (name : String) : Result Value :=
  match r.find? name with
  | some cell => .ok cell.2
  | none => unknown name

/-- The value under a name, read as an `α`. A failed reading names the
column. -/
def get (r : Row) (α : Type) [FromValue α] (name : String) : Result α := do
  let v ← r.named name
  match v.as α with
  | .ok a => .ok a
  | .error e => .error (.serialization (.column name e.message))

/-- The value under a name, read as an `α`, unless there is no such
column or its value is null. -/
def getIfPresent (r : Row) (α : Type) [FromValue α] (name : String) : Result (Option α) :=
  match r.find? name with
  | none => .ok none
  | some (_, .null) => .ok none
  | some (_, v) => some <$> v.as α

/-- The columns by name. -/
def toMap (r : Row) : List (String × Value) :=
  r.cells.foldl (fun acc cell => Json.insertMember cell.1 cell.2 acc) []

/-- The row as a document. -/
def toJson (r : Row) : Json :=
  .ofMembers (r.cells.map fun cell => (cell.1, cell.2.toJson))

end Row

/-- The types that a row can be read as. -/
class FromRow (α : Type) where
  /-- The row as an `α`. -/
  fromRow : Row → Result α

end DataAccess
