import DataAccess.Isolation
import DataAccess.Row
import DataAccess.Sql.Dialect
import DataAccess.Work

/-!
# `DataAccess.Source.Basic`: sources of connections

What a unit of work needs of a database: connections, the control of
transactions on them, and statements. A source is given by what each
of these does to a state, which may be anything, and each of them may
fail.

* `DataSource`: the sources.
* `DataSource.lift`: a source whose state is a part of another one.
* `Event`, `DataSource.recorded`: a source that keeps a record of what
  was asked of it and how that went.
-/

set_option autoImplicit false

namespace DataAccess

/-- The number of a connection. -/
abbrev ConnectionId := Nat

/-- A statement to be sent, in a dialect. -/
structure Command where
  dialect : Dialect
  statement : Statement

/-- The text of a command and the values of its placeholders. -/
def Command.sql (c : Command) : Sql :=
  c.dialect.sql c.statement

/-- The outcome of a write. -/
structure Written where
  /-- The rows that were written. -/
  rows : UInt64
  /-- The key that the database made, if it reports one. -/
  generatedKey : Option Int64
  deriving DecidableEq, Repr

/-- A source of connections whose state is a `σ`. -/
structure DataSource (σ : Type) where
  /-- The kind of database. -/
  backend : Backend
  /-- Gives a connection. -/
  acquire : Work σ ConnectionId
  /-- Begins a transaction on a connection. -/
  begin : ConnectionId → Isolation → Work σ Unit
  /-- Keeps what a transaction did. -/
  commit : ConnectionId → Work σ Unit
  /-- Undoes what a transaction did. -/
  rollback : ConnectionId → Work σ Unit
  /-- Takes a connection back. -/
  release : ConnectionId → Work σ Unit
  /-- Runs a statement that writes. -/
  execute : ConnectionId → Command → Work σ Written
  /-- Runs a statement that reads. -/
  fetch : ConnectionId → Command → Work σ (List Row)
  /-- Gives no more connections. -/
  close : σ → σ

/-- The source, where its state is the part of a state that `read`
takes out and `write` puts back. -/
def DataSource.lift {σ τ : Type} (read : σ → τ) (write : τ → σ → σ) (source : DataSource τ) :
    DataSource σ where
  backend := source.backend
  acquire := source.acquire.within read write
  begin c level := (source.begin c level).within read write
  commit c := (source.commit c).within read write
  rollback c := (source.rollback c).within read write
  release c := (source.release c).within read write
  execute c command := (source.execute c command).within read write
  fetch c command := (source.fetch c command).within read write
  close s := write (source.close (read s)) s

/-- Something that was asked of a source, and how it went. -/
inductive Event where
  /-- A connection was asked for. -/
  | acquire (result : Result ConnectionId)
  /-- A transaction was to begin. -/
  | begin (c : ConnectionId) (level : Isolation) (result : Result Unit)
  /-- A transaction was to be kept. -/
  | commit (c : ConnectionId) (result : Result Unit)
  /-- A transaction was to be undone. -/
  | rollback (c : ConnectionId) (result : Result Unit)
  /-- A connection was given back. -/
  | release (c : ConnectionId) (result : Result Unit)
  /-- A statement was to write. -/
  | execute (c : ConnectionId) (command : Command) (result : Result Written)
  /-- A statement was to read. -/
  | fetch (c : ConnectionId) (command : Command) (result : Result (List Row))
  /-- The source was closed. -/
  | close

/-- A state with a record of what happened, the oldest first. -/
structure Recorded (α σ : Type) where
  /-- The record. -/
  log : List α
  state : σ

namespace Recorded

variable {α σ β : Type}

/-- Adds to the record. -/
def note (a : α) (r : Recorded α σ) : Recorded α σ :=
  { r with log := r.log ++ [a] }

/-- Work on the state, with its outcome added to the record. -/
def noting (entry : Result β → α) (w : Work σ β) : Work (Recorded α σ) β :=
  Work.of fun r =>
    let (result, s) := w.exec r.state
    (result, { r with state := s }.note (entry result))

end Recorded

/-- The source, with a record of what was asked of it; `entry` makes
an entry of what happened. -/
def DataSource.recorded {α σ : Type} (entry : Event → α) (source : DataSource σ) :
    DataSource (Recorded α σ) where
  backend := source.backend
  acquire := source.acquire |> Recorded.noting fun r => entry (.acquire r)
  begin c level := source.begin c level |> Recorded.noting fun r => entry (.begin c level r)
  commit c := source.commit c |> Recorded.noting fun r => entry (.commit c r)
  rollback c := source.rollback c |> Recorded.noting fun r => entry (.rollback c r)
  release c := source.release c |> Recorded.noting fun r => entry (.release c r)
  execute c command :=
    source.execute c command |> Recorded.noting fun r => entry (.execute c command r)
  fetch c command :=
    source.fetch c command |> Recorded.noting fun r => entry (.fetch c command r)
  close r := { r with state := source.close r.state }.note (entry .close)

end DataAccess
