import DataAccess.Source.Basic

/-!
# `DataAccess.Source.Scripted`: a source that follows a script

A source without a database behind it. For everything that can be
asked of it the script holds answers, which it gives in turn; when
they are used up, all goes well: a connection is given, one row is
written and gets the key 1, and no rows are read.
-/

set_option autoImplicit false

namespace DataAccess

/-- The answers that a scripted source still has to give, and how many
connections it gave. -/
structure Script where
  /-- Answers to requests for a connection. -/
  acquire : List (Result Unit) := []
  /-- Answers to beginnings of transactions. -/
  begin : List (Result Unit) := []
  /-- Answers to commits. -/
  commit : List (Result Unit) := []
  /-- Answers to rollbacks. -/
  rollback : List (Result Unit) := []
  /-- Answers to returns of connections. -/
  release : List (Result Unit) := []
  /-- Answers to writes. -/
  execute : List (Result Written) := []
  /-- Answers to reads. -/
  fetch : List (Result (List Row)) := []
  /-- How many connections were given. -/
  given : Nat := 0

namespace Script

variable {α : Type}

/-- The script with the answers of another one after its own. -/
def append (s t : Script) : Script where
  acquire := s.acquire ++ t.acquire
  begin := s.begin ++ t.begin
  commit := s.commit ++ t.commit
  rollback := s.rollback ++ t.rollback
  release := s.release ++ t.release
  execute := s.execute ++ t.execute
  fetch := s.fetch ++ t.fetch
  given := s.given

/-- The next of the answers that `read` takes out, or `default` if
there are no more. -/
def next (read : Script → List (Result α)) (write : List (Result α) → Script → Script)
    (default : α) : Work Script α :=
  Work.of fun s =>
    match read s with
    | [] => (.ok default, s)
    | answer :: rest => (answer, write rest s)

/-- The source that follows a script. -/
def source (backend : Backend) : DataSource Script where
  backend := backend
  acquire := do
    next (·.acquire) (fun rest s => { s with acquire := rest }) ()
    modify fun s => { s with given := s.given + 1 }
    return (← get).given
  begin _ _ := next (·.begin) (fun rest s => { s with begin := rest }) ()
  commit _ := next (·.commit) (fun rest s => { s with commit := rest }) ()
  rollback _ := next (·.rollback) (fun rest s => { s with rollback := rest }) ()
  release _ := next (·.release) (fun rest s => { s with release := rest }) ()
  execute _ _ := next (·.execute) (fun rest s => { s with execute := rest }) ⟨1, some 1⟩
  fetch _ _ := next (·.fetch) (fun rest s => { s with fetch := rest }) []
  close s := s

end Script

end DataAccess
