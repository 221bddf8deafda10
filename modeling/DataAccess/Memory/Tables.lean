import DataAccess.Memory.Request
import DataAccess.Json.Printer
import DataAccess.Row
import DataAccess.Source.Basic

/-!
# `DataAccess.Memory.Tables`: tables in memory

A database of tables that are kept in memory, with at most one
transaction at a time. Rows are numbered; a new row gets the number
after the greatest one of its table.

* `Stored`: how values are kept. Truth values are kept as numbers, and
  identifiers, moments, days, times and documents as text; a number
  that is not one is null.
* `Tables.run`: runs a statement.
* `Tables.begin`, `commit`, `rollback`: transactions, which also undo
  the making of tables.
-/

set_option autoImplicit false

namespace DataAccess

/-- A value as it is kept. -/
inductive Stored where
  /-- Nothing. -/
  | null
  /-- A whole number. -/
  | integer (i : Int64)
  /-- A floating point number. -/
  | real (x : Float)
  | text (s : String)
  /-- Bytes. -/
  | blob (bs : List UInt8)

namespace Stored

/-- A floating point number, kept. -/
def ofFloat (x : Float) : Stored :=
  if x.isNaN then .null else .real x

/-- A value, kept. A list of values cannot be kept. -/
def ofValue : Value → Result Stored
  | .null => .ok .null
  | .bool b => .ok (.integer (if b then 1 else 0))
  | .int32 i => .ok (.integer i.toInt64)
  | .int64 i => .ok (.integer i)
  | .float32 x => .ok (ofFloat x.toFloat)
  | .float64 x => .ok (ofFloat x)
  | .string s => .ok (.text s)
  | .bytes bs => .ok (.blob bs)
  | .uuid u => .ok (.text u.text)
  | .moment m => .ok (.text m.text)
  | .date d => .ok (.text d.text)
  | .time t => .ok (.text t.text)
  | .json j => .ok (.text j.compact)
  | .array _ => .error (.invalidInput .listParameter)

/-- The value that is read back. -/
def toValue : Stored → Value
  | .null => .null
  | .integer i => .int64 i
  | .real x => .float64 x
  | .text s => .string s
  | .blob bs => .bytes bs

end Stored

namespace Memory

/-- Why a statement or the control of a transaction fails. -/
inductive Fault where
  /-- No table has this name. -/
  | noSuchTable (table : String)
  /-- A table has this name already. -/
  | tableExists (table : String)
  /-- A row has more or fewer values than its table has columns. -/
  | valueCount (table : String) (columns values : Nat)
  /-- A statement cannot be read. -/
  | unreadable (start : String)
  /-- A transaction begins inside another one. -/
  | nestedTransaction
  /-- There is no transaction to commit. -/
  | nothingToCommit
  /-- There is no transaction to roll back. -/
  | nothingToRollback
  /-- The file of a database cannot be opened. -/
  | cannotOpen
  /-- No file system has this name. -/
  | noSuchFileSystem (name : String)
  deriving DecidableEq, Repr

namespace Fault

/-- The number of a fault. -/
def code : Fault → Nat
  | .cannotOpen => 14
  | _ => 1

/-- The wording of a fault. -/
def message : Fault → String
  | .noSuchTable t => s!"no such table: {t}"
  | .tableExists t => s!"table {t} already exists"
  | .valueCount t c v => s!"table {t} has {c} columns but {v} values were supplied"
  | .unreadable start => s!"near \"{start}\": syntax error"
  | .nestedTransaction => "cannot start a transaction within a transaction"
  | .nothingToCommit => "cannot commit - no transaction is active"
  | .nothingToRollback => "cannot rollback - no transaction is active"
  | .cannotOpen => "unable to open database file"
  | .noSuchFileSystem name => s!"no such vfs: {name}"

/-- The report of a fault. -/
def report (f : Fault) : String :=
  s!"error returned from database: (code: {f.code}) {f.message}"

end Fault

/-- A table. -/
structure Table where
  name : String
  columns : List String
  /-- Its rows with their numbers, the oldest first. -/
  rows : List (Int × List Stored)

/-- The number of a new row. -/
def Table.nextRow (t : Table) : Int :=
  t.rows.foldl (fun n row => max n row.1) 0 + 1

/-- The tables of a database. -/
structure Tables where
  tables : List Table := []
  /-- The tables at the beginning of the transaction, if there is
  one. -/
  saved : Option (List Table) := none
  /-- The number of the last row that was inserted. -/
  lastRow : Int := 0

namespace Tables

/-- A transaction is open. -/
def inTransaction (t : Tables) : Bool :=
  t.saved.isSome

/-- Begins a transaction. -/
def begin (t : Tables) : Except Fault Tables :=
  match t.saved with
  | some _ => .error .nestedTransaction
  | none => .ok { t with saved := some t.tables }

/-- Keeps what a transaction did. -/
def commit (t : Tables) : Except Fault Tables :=
  match t.saved with
  | some _ => .ok { t with saved := none }
  | none => .error .nothingToCommit

/-- Undoes what a transaction did. -/
def rollback (t : Tables) : Except Fault Tables :=
  match t.saved with
  | some tables => .ok { t with tables := tables, saved := none }
  | none => .error .nothingToRollback

/-- The table of a name. -/
def table (t : Tables) (name : String) : Except Fault Table :=
  match t.tables.find? fun table => Text.sameIgnoringCase table.name name with
  | some table => .ok table
  | none => .error (.noSuchTable name)

/-- The tables with one of them changed. -/
def replace (t : Tables) (new : Table) : Tables :=
  { t with tables := t.tables.map fun old => if old.name = new.name then new else old }

/-- The values of items, where parameters are used in turn and are null
when there are no more. -/
def fill : List Item → List Stored → List Stored
  | [], _ => []
  | .literal v :: items, params =>
    ((Stored.ofValue v).toOption.getD .null) :: fill items params
  | .parameter :: items, [] => .null :: fill items []
  | .parameter :: items, p :: params => p :: fill items params

/-- A row of results. -/
def resultRow (columns : List String) (values : List Stored) : Row :=
  .of columns (values.map Stored.toValue)

/-- Runs a statement: the rows it reads, how many rows it writes, and
what becomes of the tables. -/
def run (t : Tables) (params : List Stored) :
    Request → Except Fault (List Row × Nat × Tables)
  | .row columns =>
    .ok ([resultRow (columns.map (·.1)) (fill (columns.map (·.2)) params)], 0, t)
  | .createTable name columns =>
    match t.table name with
    | .ok _ => .error (.tableExists name)
    | .error _ => .ok ([], 0, { t with tables := t.tables ++ [⟨name, columns, []⟩] })
  | .insertRow name items => do
    let table ← t.table name
    if items.length ≠ table.columns.length then
      throw (.valueCount name table.columns.length items.length)
    let n := table.nextRow
    let row := (n, fill items params)
    return ([], 1, { t.replace { table with rows := table.rows ++ [row] } with lastRow := n })
  | .readTable name => do
    let table ← t.table name
    return (table.rows.map fun row => resultRow table.columns row.2, 0, t)
  | .clearTable name => do
    let table ← t.table name
    return ([], table.rows.length, t.replace { table with rows := [] })

/-- Runs the statement of a text. -/
def runText (t : Tables) (sql : String) (params : List Stored) :
    Except Fault (List Row × Nat × Tables) :=
  match Request.read? sql with
  | some request => t.run params request
  | none =>
    let start := (Text.trimStart sql.toList).takeWhile fun c => !Text.isBlank c
    .error (.unreadable (String.ofList start))

end Tables

end Memory

end DataAccess
