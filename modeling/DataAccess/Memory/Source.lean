import DataAccess.Memory.Tables
import DataAccess.Source.Pool

/-!
# `DataAccess.Memory.Source`: a database in memory as a source

The source of a database in memory. It has one connection, for every
other one would see another database. A transaction that is still open
when the connection comes back is rolled back.
-/

set_option autoImplicit false

namespace DataAccess

/-- A database in memory with its pool. -/
structure Memory where
  tables : Memory.Tables := {}
  pool : Pool := .single
  /-- How many times the connection was given. -/
  given : Nat := 0

namespace Memory

/-- A control statement on the tables. -/
def control (statement : String) (f : Tables → Except Fault Tables) : Work Memory Unit :=
  Work.of fun m =>
    match f m.tables with
    | .ok tables => (.ok (), { m with tables := tables })
    | .error fault => (.error (.connection (.failed (.control statement) fault.report)), m)

/-- Begins a transaction. -/
def begin : Work Memory Unit := control "BEGIN" Tables.begin

/-- Keeps what a transaction did. -/
def commit : Work Memory Unit := control "COMMIT" Tables.commit

/-- Undoes what a transaction did. -/
def rollback : Work Memory Unit := control "ROLLBACK" Tables.rollback

/-- Gives the connection. -/
def acquire : Work Memory ConnectionId := do
  let pool ← Work.ofResult ((← get).pool.acquire "SQLite")
  modify fun m => { m with pool := pool, given := m.given + 1 }
  return (← get).given

/-- Takes the connection back. -/
def release : Work Memory Unit := do
  if (← get).tables.inTransaction then rollback
  modify fun m => { m with pool := m.pool.release }

/-- Runs a statement: the rows it reads, and how many it writes. -/
def run (sql : Sql) : Work Memory (List Row × Nat) := do
  let params ← Work.ofResult (sql.params.mapM Stored.ofValue)
  match (← get).tables.runText sql.text params with
  | .ok (rows, written, tables) => do
    modify fun m => { m with tables := tables }
    return (rows, written)
  | .error fault => Work.fail (.database fault.report)

/-- The source of a database in memory. -/
def source : DataSource Memory where
  backend := .sqlite
  acquire := acquire
  begin _ _ := begin
  commit _ := commit
  rollback _ := rollback
  release _ := release
  execute _ command := do
    let (_, written) ← run command.sql
    return ⟨UInt64.ofNat written, some (Int64.ofInt (← get).tables.lastRow)⟩
  fetch _ command := do
    let (rows, _) ← run command.sql
    return rows
  close m := { m with pool := m.pool.close }

end Memory

end DataAccess
