import DataAccess.Settings
import DataAccess.Source.Basic

/-!
# `DataAccess.Database.Basic`: units of work on one connection

A database is a source of connections with a dialect and settings. A
session with it is one chain of nested units of work. Every opening is
counted, and every closing is; the connection is acquired at the
first opening and given back at the closing that brings the count back
to zero. Nested units share the connection, and only the closing of
the outermost one commits or rolls back.

* `Database.openConnection`, `openTransaction`, `openTransactionWith`:
  the openings.
* `Database.closeConnection`, `closeTransaction`: the closings.
* `Database.readOnly`, `Database.transaction`: work in a unit that is
  closed in any case; a transaction commits only if the work succeeded.
* `Database.execute`, `Database.fetch`: statements on the open
  connection.
-/

set_option autoImplicit false

namespace DataAccess

/-- A database whose source has states `σ`. -/
structure Database (σ : Type) where
  /-- Where connections come from. -/
  source : DataSource σ
  /-- The way statements are written. -/
  dialect : Dialect
  settings : QuerySettings

/-- The database of a source, in the dialect of its backend. -/
def Database.of {σ : Type} (source : DataSource σ) (settings : QuerySettings := {}) :
    Database σ :=
  ⟨source, source.backend, settings⟩

/-- One chain of nested units of work. -/
structure Units where
  /-- How many units are open. -/
  openCalls : Nat := 0
  /-- The connection they share. -/
  connection : Option ConnectionId := none
  /-- Whether a transaction began on it. -/
  transactional : Bool := false
  deriving DecidableEq, Repr

/-- Units of work over a source in a state `σ`. -/
structure Session (σ : Type) where
  /-- The units of work. -/
  units : Units
  /-- The state of the source. -/
  world : σ

namespace Session

variable {σ α : Type}

/-- A session without open units. -/
def start (world : σ) : Session σ := ⟨{}, world⟩

/-- Work on the state of the source. -/
def onWorld (w : Work σ α) : Work (Session σ) α :=
  w.within (·.world) fun world s => { s with world := world }

/-- Work on the units. -/
def onUnits (w : Work Units α) : Work (Session σ) α :=
  w.within (·.units) fun units s => { s with units := units }

end Session

/-- One more unit is open, on the connection that is there. -/
def Units.join (u : Units) : Units :=
  { u with openCalls := u.openCalls + 1 }

/-- The first unit is open, on a new connection. -/
def Units.enter (c : ConnectionId) (transactional : Bool) (u : Units) : Units :=
  ⟨u.openCalls + 1, some c, transactional⟩

/-- Closes a unit. If it is the outermost one, its connection is
taken out, with whether a transaction began on it. -/
def Units.leave : Work Units (Option (ConnectionId × Bool)) := do
  let u ← get
  match u.openCalls with
  | 0 => Work.fail (.connection .closeWithoutOpen)
  | 1 => do
    set ({} : Units)
    return u.connection.map fun c => (c, u.transactional)
  | n + 2 => do
    set { u with openCalls := n + 1 }
    return none

namespace Database

variable {σ τ α : Type}

/-! ## Openings -/

/-- Begins a transaction on a new connection. If that fails, the
connection goes back, and how that goes does not matter. -/
def beginOn (db : Database σ) (c : ConnectionId) (level : Isolation) : Work σ Unit := do
  match ← (db.source.begin c level).attempt with
  | .ok _ => return
  | .error e => do
    let _ ← (db.source.release c).attempt
    Work.fail (.ofStep .begin e)

/-- A new connection, with a transaction if `level` is given. -/
def connect (db : Database σ) (level : Option Isolation) : Work σ ConnectionId := do
  let c ← db.source.acquire.mapError (.ofStep .acquire)
  match level with
  | none => return c
  | some level => do
    db.beginOn c level
    return c

/-- Opens a unit. If there is a connection it joins it; if not, it gets
one, with a transaction if `level` is given. A unit that fails to open
does not count. -/
def openUnit (db : Database σ) (level : Option Isolation) : Work (Session σ) Unit := do
  match (← get).units.connection with
  | some _ => Session.onUnits (modify Units.join)
  | none => do
    let c ← Session.onWorld (db.connect level)
    Session.onUnits (modify (Units.enter c level.isSome))

/-- Opens a unit without a transaction. -/
def openConnection (db : Database σ) : Work (Session σ) Unit :=
  db.openUnit none

/-- Opens a unit with a transaction of the given isolation. -/
def openTransactionWith (db : Database σ) (level : Isolation) : Work (Session σ) Unit :=
  db.openUnit (some level)

/-- Opens a unit with a transaction. -/
def openTransaction (db : Database σ) : Work (Session σ) Unit :=
  db.openTransactionWith db.settings.isolation

/-! ## Closings -/

/-- Gives a connection back. -/
def releaseOf (db : Database σ) (c : ConnectionId) : Work σ Unit :=
  (db.source.release c).mapError (.ofStep .release)

/-- Ends the transaction of a connection, if one began. -/
def finishOf (db : Database σ) (c : ConnectionId) (transactional commit : Bool) :
    Work σ Unit :=
  if transactional then
    (if commit then db.source.commit c else db.source.rollback c).mapError (.ofStep .finish)
  else return

/-- Closes a unit. The connection of the outermost one goes back; a
transaction on it is left to the source. -/
def closeConnection (db : Database σ) : Work (Session σ) Unit := do
  match ← Session.onUnits Units.leave with
  | none => return
  | some (c, _) => Session.onWorld (db.releaseOf c)

/-- Closes a unit. On the outermost one the transaction is committed or
rolled back, and the connection goes back in any case. -/
def closeTransaction (db : Database σ) (commit : Bool) : Work (Session σ) Unit := do
  match ← Session.onUnits Units.leave with
  | none => return
  | some (c, transactional) =>
    Session.onWorld
      ((db.finishOf c transactional commit).concluding fun _ => db.releaseOf c)

/-! ## Work in a unit -/

/-- Work on a subject and a session, of which it needs only the
session. -/
def onSession (w : Work (Session σ) α) : Work (τ × Session σ) α :=
  w.within (·.2) fun s p => (p.1, s)

/-- Work on a subject and a session, of which it needs only the
subject. -/
def onSubject (w : Work τ α) : Work (τ × Session σ) α :=
  w.within (·.1) fun t p => (t, p.2)

/-- Work in a unit without a transaction. -/
def readOnly (db : Database σ) (w : Work (Session σ) α) : Work (Session σ) α :=
  Work.enclosed db.openConnection (fun _ => db.closeConnection) w

/-- Work in a unit with a transaction, which commits only if the work
succeeded. -/
def transaction (db : Database σ) (w : Work (Session σ) α) : Work (Session σ) α :=
  Work.enclosed db.openTransaction db.closeTransaction w

/-- Work on a subject in a unit with a transaction, which commits only
if the work succeeded. What becomes of the subject is not undone. -/
def transactionOn (db : Database σ) (w : Work (τ × Session σ) α) : Work (τ × Session σ) α :=
  Work.enclosed (onSession db.openTransaction)
    (fun success => onSession (db.closeTransaction success)) w

/-! ## Statements -/

/-- The open connection. -/
def connection : Work (Session σ) ConnectionId := do
  match (← get).units.connection with
  | some c => return c
  | none => Work.fail (.connection .notOpen)

/-- Runs a statement that writes on the open connection. -/
def execute (db : Database σ) (statement : Statement) : Work (Session σ) Written := do
  let c ← connection
  Session.onWorld (db.source.execute c ⟨db.dialect, statement⟩)

/-- Runs a statement that reads on the open connection. -/
def fetch (db : Database σ) (statement : Statement) : Work (Session σ) (List Row) := do
  let c ← connection
  Session.onWorld (db.source.fetch c ⟨db.dialect, statement⟩)

/-- Closes the source. -/
def close (db : Database σ) (s : Session σ) : Session σ :=
  { s with world := db.source.close s.world }

end Database

end DataAccess
