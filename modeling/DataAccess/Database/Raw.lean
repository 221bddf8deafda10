import DataAccess.Database.Basic
import DataAccess.Mapping

/-!
# `DataAccess.Database.Raw`: statements written by hand

Statements that are given as text. They run in units of work like all
others, and so share the connection and the transaction of what is
around them.

* `Database.query`: the rows of a query; `queryAs`, `queryEntities`
  and `queryScalar` read them as something.
* `Database.run`: a statement that writes.
* `Database.countedPaging`: the window of a paged query whose rows
  another query counts.
-/

set_option autoImplicit false

namespace DataAccess.Database

variable {σ α : Type}

/-- The statement of a text. -/
def raw (sql : Sql) : Statement :=
  .raw sql.text sql.params

/-- The rows of a query. -/
def query (db : Database σ) (sql : Sql) : Work (Session σ) (List Row) :=
  db.readOnly ((db.fetch (raw sql)).mapError (.inOperation "raw query"))

/-- The rows of a query, each as what `read` makes of it. -/
def queryWith (db : Database σ) (sql : Sql) (read : Row → Result α) :
    Work (Session σ) (List α) := do
  let rows ← db.query sql
  Work.ofResult (rows.mapM read)

/-- The rows of a query, each as an `α`. -/
def queryAs (db : Database σ) (α : Type) [FromRow α] (sql : Sql) : Work (Session σ) (List α) :=
  db.queryWith sql FromRow.fromRow

/-- The rows of a query, each as an entity of type `k`, whose fields
are under the names of their columns. -/
def queryEntities {ι ε : Type} (db : Database σ) (m : Model ι ε) (k : ι) (sql : Sql) :
    Work (Session σ) (List ε) :=
  db.queryWith sql fun row => m.populated k row none

/-- A value as an `α`; null is none. -/
def scalar? (α : Type) [FromValue α] : Option Value → Result (Option α)
  | none => .ok none
  | some v => if v.isNull then .ok none else some <$> v.as α

/-- The value in the first column of the first row of a query, as an
`α`. -/
def queryScalar (db : Database σ) (α : Type) [FromValue α] (sql : Sql) :
    Work (Session σ) (Option α) := do
  let rows ← db.query sql
  Work.ofResult (scalar? α (rows.head?.bind Row.first?))

/-- Runs a statement that writes, and counts the rows written. -/
def run (db : Database σ) (sql : Sql) : Work (Session σ) UInt64 :=
  db.transaction do
    let written ← (db.execute (raw sql)).mapError (.inOperation "raw execution")
    return written.rows

/-- The number of rows that a query counted, which is never
negative. -/
def countOf (total : Option Int64) : UInt64 :=
  match total with
  | some n => if n < 0 then 0 else n.toUInt64
  | none => 0

/-- The window of a page, with the total that a query counts. -/
def countedPaging (db : Database σ) (count : Sql) (pageSize page : UInt64) :
    Work (Session σ) Paging := do
  let paging ← Work.ofResult (Paging.withPage pageSize page)
  let total ← db.queryScalar Int64 count
  return paging.setTotal (countOf total)

end DataAccess.Database
