import DataAccess.Proofs.Dao.OperationFrames
import DataAccess.Source.Scripted

/-!
# `DataAccess.Proofs.Dao.Program`: programs of units and operations

A `Program` is what callers put together of transactions, reads, queries,
statements and the operations of their `Dao`s, to any depth. What follows
a piece of it is told how it ended, and may pass an error on, replace it
or forget it.

`Program.frames` reads the outermost units of a program off its text. A
transaction is one, whatever is in it; so are a read, a query and a
statement; an operation has the units of `Dao.Operation.frames`. Each frame
says whether there is a transaction and how the unit's own work ended.

`Program.run_balanced` is the principal theorem: a program asks of the
source one `Block` for each of its outermost units, and nothing else,
whatever the source answers. What is nested in a unit adds statements to its
block, and for what is nested it is enough that every program is a tree of
units (`Program.isProgram`).
-/

set_option autoImplicit false

namespace DataAccess

variable {σ ι ε α β : Type}

/-- A program over a database. -/
inductive Program (db : Database σ) : Type → Type 1 where
  /-- An outcome, without anything being asked of the database. -/
  | result {α : Type} (r : Result α) : Program db α
  /-- A program, and what depends on how it ended. -/
  | bind {α β : Type} (p : Program db α) (next : Result α → Program db β) : Program db β
  /-- A program in a transaction. -/
  | transaction {α : Type} (p : Program db α) : Program db α
  /-- A program on a plain connection. -/
  | readOnly {α : Type} (p : Program db α) : Program db α
  /-- A query written by hand. -/
  | query (sql : Sql) : Program db (List Row)
  /-- A statement written by hand. -/
  | execute (sql : Sql) : Program db UInt64
  /-- An operation of a `Dao`, whose hooks are trees of units. -/
  | operation {ι ε α : Type} (dao : Dao σ ι ε) (on : dao.db = db) (hooks : dao.HookTrees)
      (op : Dao.Operation ι ε α) : Program db α

namespace Program

/-- The work of a program. -/
def work {db : Database σ} {α : Type} : Program db α → Work (Session σ) α
  | .result r => Work.ofResult r
  | .bind p next => p.work.attempt >>= fun result => (next result).work
  | .transaction p => db.transaction p.work
  | .readOnly p => db.readOnly p.work
  | .query sql => db.query sql
  | .execute sql => db.run sql
  | .operation dao _ _ op => op.work dao

/-- The outermost units of a program that is run from `s`, where no unit is
open, in order. -/
def frames {db : Database σ} {α : Type} : Program db α → Session σ → List Frame
  | .result _, _ => []
  | .bind p next, s => p.frames s ++ (next (p.work.exec s).1).frames (p.work.exec s).2
  | .transaction p, s => [.of db (some db.settings.isolation) (fun s => (p.work.exec s).1) s]
  | .readOnly p, s => [.of db none (fun s => (p.work.exec s).1) s]
  | .query sql, s => [.of db none (fun s => ((db.fetch (Database.raw sql)).exec s).1) s]
  | .execute sql, s =>
    [.of db (some db.settings.isolation) (fun s => ((db.execute (Database.raw sql)).exec s).1) s]
  | .operation dao _ _ op, s => op.frames dao s

/-- A program is a tree of units. -/
theorem isProgram {db : Database σ} (p : Program db α) : IsProgram db p.work := by
  -- Each constructor is a step of the tree; an operation is the tree of its own.
  induction p with
  | result r => exact .ofResult r
  | bind p next ih ihnext => exact ih.attempt.bind ihnext
  | transaction p ih => exact ih.transaction
  | readOnly p ih => exact ih.readOnly
  | query sql => exact ((IsProgram.fetch _).mapError _).readOnly
  | execute sql =>
      exact (((IsProgram.execute _).mapError _).bind fun _ => .pure _).transaction
  | operation dao on hooks op =>
      have h := op.isProgram hooks
      rw [on] at h
      exact h

/-- A program that is run where no unit is open leaves none open, and asks
of the source one block for each of its outermost units, in turn, however
the source answers and whatever the program makes of the errors inside of
them. -/
theorem run_balanced {db : Database σ} (p : Program db.recorded α)
    {s : Session (Recorded Event σ)} (hs : s.units = {}) :
    Balanced (p.frames s) s (p.work.exec s).2 := by
  induction p generalizing s with
  | result r => exact .nil hs
  | bind p next ih ihnext =>
      -- No unit is open when the second part begins.
      have hfirst := ih hs
      exact hfirst.append (ihnext _ hfirst.closed)
  | transaction p => exact p.isProgram.balanced (some _) hs
  | readOnly p => exact p.isProgram.balanced none hs
  | query sql =>
      -- The name of the operation in an error does not matter to the unit.
      have hsent : IsProgram db.recorded
          ((db.recorded.fetch (Database.raw sql)).mapError (.inOperation "raw query")) :=
        (IsProgram.fetch _).mapError _
      rw [frames, ← Frame.of_congr fun s => Work.isOk_mapError (.inOperation "raw query") _ s]
      exact hsent.balanced none hs
  | execute sql =>
      have hsent : IsProgram db.recorded
          ((db.recorded.execute (Database.raw sql)).mapError (.inOperation "raw execution")) :=
        (IsProgram.execute _).mapError _
      have hrows : IsProgram db.recorded
          ((db.recorded.execute (Database.raw sql)).mapError (.inOperation "raw execution")
            >>= fun written => pure written.rows) := hsent.bind fun _ => .pure _
      rw [frames, ← Frame.of_congr fun s => (Work.isOk_bind_pure (·.rows) _ s).trans
        (Work.isOk_mapError (.inOperation "raw execution") _ s)]
      exact hrows.balanced (some _) hs
  | operation dao on hooks op => exact op.balanced on hooks hs

/-! ### A deletion that fails -/

/-- People, of whom only the identity is known. -/
def peopleModel : Model Unit (Option Int64) where
  schema := Criteria.people
  construct _ := none
  id? := id
  setId key _ := some key
  valueOf e _ := .ok ((e.map Value.int64).getD .null)
  setValue _ _ e := .ok e
  attach _ _ e := .ok e

/-- A database that follows a script. -/
def scripted : Database Script := .of (Script.source .sqlite)

/-- Access to people in it. -/
def peopleDao : Dao (Recorded Event Script) Unit (Option Int64) where
  db := scripted.recorded
  model := peopleModel
  kind := ()

/-- All people are deleted. -/
def deletion : Program scripted.recorded UInt64 :=
  .operation peopleDao rfl (.of_none rfl) .deleteAll

/-- All people are deleted in a transaction that succeeds in any case. -/
def forgivenDeletion : Program scripted.recorded Unit :=
  .transaction (.bind deletion fun _ => .result (.ok ()))

/-- A deletion that fails is tried again and forgiven. As an outermost unit
it is undone; in another transaction its error does not decide, and that
one is committed. -/
theorem run_balanced_forgiven :
    let p : Program scripted.recorded Unit := .bind deletion fun _ => forgivenDeletion
    let s := Session.start
      ⟨[], { execute := [.error .missingPrimaryKey, .error .missingPrimaryKey] }⟩
    s.units = {} ∧
      p.frames s = [⟨some .readCommitted, some false⟩, ⟨some .readCommitted, some true⟩] ∧
      Balanced [⟨some .readCommitted, some false⟩, ⟨some .readCommitted, some true⟩] s
        (p.work.exec s).2 := by
  intro p s
  -- Two deletions that fail: one decides its unit, the other one is forgiven.
  have hframes : p.frames s
      = [⟨some .readCommitted, some false⟩, ⟨some .readCommitted, some true⟩] := by
    decide +kernel
  have hs : s.units = {} := rfl
  have hbalanced := run_balanced p hs
  rw [hframes] at hbalanced
  exact ⟨hs, hframes, hbalanced⟩

end Program

end DataAccess
