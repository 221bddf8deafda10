import DataAccess.Error

/-!
# `DataAccess.Work`: work on a state, which may fail

A piece of work reads and changes a state and ends with a result or an
error. The state it reaches is kept in both cases: work that fails
does not by itself undo what it did.

* `Work.exec`: the outcome of a piece of work on a state, and the
  state reached.
* `Work.within`: work on a part of a state.
* `Work.attempt`: work whose error is a result.
* `Work.undoing`: work that puts a part of the state back when it
  fails.
* `Work.concluding`, `Work.enclosed`: work that is concluded in any
  case, whether it fails or not.

The equations `exec_pure`, `exec_fail` and `exec_bind` say how work is
put together.
-/

set_option autoImplicit false

namespace DataAccess

/-- Work on a state `σ` with a result `α`. -/
abbrev Work (σ α : Type) := ExceptT Error (StateM σ) α

namespace Work

variable {σ τ α β : Type}

/-- The outcome of the work on the state `s`, and the state reached. -/
def exec (w : Work σ α) (s : σ) : Result α × σ :=
  StateT.run (ExceptT.run w) s

/-- The work with the given outcomes. -/
def of (f : σ → Result α × σ) : Work σ α :=
  ExceptT.mk fun s => f s

/-- Work that fails. -/
def fail (e : Error) : Work σ α :=
  throw e

/-- Work that ends with a given outcome and leaves the state alone. -/
def ofResult (r : Result α) : Work σ α :=
  of fun s => (r, s)

/-- Work on the part of a state that `read` takes out and `write` puts
back. -/
def within (read : σ → τ) (write : τ → σ → σ) (w : Work τ α) : Work σ α :=
  of fun s =>
    let (r, t) := w.exec (read s)
    (r, write t s)

/-- The outcome of the work, as a result. -/
def attempt (w : Work σ α) : Work σ (Result α) :=
  of fun s =>
    let (r, s) := w.exec s
    (.ok r, s)

/-- The work; if it fails, the part of the state that `read` takes out
is put back as it was. -/
def undoing (read : σ → τ) (write : τ → σ → σ) (w : Work σ α) : Work σ α :=
  of fun s =>
    match w.exec s with
    | (.ok a, s') => (.ok a, s')
    | (.error e, s') => (.error e, write (read s) s')

/-- The work with its error replaced. -/
def mapError (f : Error → Error) (w : Work σ α) : Work σ α :=
  of fun s =>
    match w.exec s with
    | (.ok a, s') => (.ok a, s')
    | (.error e, s') => (.error (f e), s')

/-- The outcome of work that was concluded: the first error counts. -/
def concluded (result : Result α) (conclusion : Result Unit) : Result α :=
  match result, conclusion with
  | .error e, _ => .error e
  | .ok _, .error e => .error e
  | .ok a, .ok _ => .ok a

/-- The work and then its conclusion, which takes place in any case and
is told whether the work succeeded. -/
def concluding (conclusion : Bool → Work σ Unit) (w : Work σ α) : Work σ α :=
  of fun s =>
    let (result, s) := w.exec s
    let (conclusion, s) := (conclusion result.isOk).exec s
    (concluded result conclusion, s)

/-- The work between an opening and a closing. Work that was not opened
does not take place; what was opened is closed in any case. -/
def enclosed (opening : Work σ Unit) (closing : Bool → Work σ Unit) (w : Work σ α) :
    Work σ α := do
  opening
  w.concluding closing

/-- Work that is given by what it does does that. -/
@[simp] theorem exec_of (f : σ → Result α × σ) (s : σ) : (of f).exec s = f s := rfl

/-- To return something leaves the state. -/
@[simp] theorem exec_pure (a : α) (s : σ) : (pure a : Work σ α).exec s = (.ok a, s) := rfl

/-- To fail leaves the state. -/
@[simp] theorem exec_fail (e : Error) (s : σ) :
    (fail e : Work σ α).exec s = (.error e, s) := rfl

/-- To throw an error is to fail. -/
@[simp] theorem exec_throw (e : Error) (s : σ) :
    (throw e : Work σ α).exec s = (.error e, s) := rfl

/-- An outcome that is known beforehand leaves the state. -/
@[simp] theorem exec_ofResult (r : Result α) (s : σ) : (ofResult r).exec s = (r, s) := rfl

/-- The state is returned. -/
@[simp] theorem exec_get (s : σ) : (get : Work σ σ).exec s = (.ok s, s) := rfl

/-- The state is replaced. -/
@[simp] theorem exec_set (t s : σ) : (set t : Work σ PUnit).exec s = (.ok ⟨⟩, t) := rfl

/-- The state is changed. -/
@[simp] theorem exec_modify (f : σ → σ) (s : σ) :
    (modify f : Work σ PUnit).exec s = (.ok ⟨⟩, f s) := rfl

/-- What follows a piece of work is done on the state it reached, and
only if it did not fail. -/
theorem exec_bind (w : Work σ α) (f : α → Work σ β) (s : σ) :
    (w >>= f).exec s =
      match w.exec s with
      | (.ok a, s') => (f a).exec s'
      | (.error e, s') => (.error e, s') := by
  show StateT.run (ExceptT.run (w >>= f)) s = _
  simp only [exec, ExceptT.run_bind, StateT.run_bind]
  rcases h : StateT.run (ExceptT.run w) s with ⟨r, s'⟩
  cases r <;> rfl

end Work

end DataAccess
