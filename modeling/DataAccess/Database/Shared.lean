import DataAccess.Database.Basic

/-!
# `DataAccess.Database.Shared`: several sessions over one source

Sessions with one source that are at work in turn, each under a name
and with units of work of its own. One of them is current; the units
of the others are parked until it is their turn.

* `Shared.on`: work in the session of a name. It may itself turn to
  other sessions, and to those that are waiting for it.
* `Shared.fork`: one more session.
-/

set_option autoImplicit false

namespace DataAccess

/-- A state with the sessions over it. -/
structure Shared (σ : Type) where
  /-- The name of the current session. -/
  current : String
  /-- The units of work of the other ones. -/
  parked : List (String × Units)
  state : σ

namespace Shared

variable {σ α : Type}

/-- A state with one session, which is the current one. -/
def start (name : String) (state : σ) : Session (Shared σ) :=
  .start ⟨name, [], state⟩

/-- Work on the state. -/
def onState (w : Work σ α) : Work (Session (Shared σ)) α :=
  Session.onWorld (w.within (·.state) fun state s => { s with state := state })

/-- A source whose state is shared. -/
def source (source : DataSource σ) : DataSource (Shared σ) :=
  source.lift (·.state) fun state s => { s with state := state }

/-- Makes the session of a name the current one. -/
def turnTo (name : String) (s : Session (Shared σ)) : Session (Shared σ) :=
  if s.world.current = name then s
  else
    let parked := (s.world.current, s.units) :: s.world.parked.filter (·.1 ≠ s.world.current)
    ⟨(s.world.parked.lookup name).getD {}, { s.world with current := name, parked := parked }⟩

/-- Work in the session of a name. The session that was current before
is current afterwards. -/
def on (name : String) (w : Work (Session (Shared σ)) α) : Work (Session (Shared σ)) α :=
  Work.of fun s =>
    let (result, s') := w.exec (turnTo name s)
    (result, turnTo s.world.current s')

/-- One more session, without open units. A session of the same name is
forgotten. -/
def fork (name : String) (s : Session (Shared σ)) : Session (Shared σ) :=
  if s.world.current = name then { s with units := {} }
  else
    let parked := (name, {}) :: s.world.parked.filter (·.1 ≠ name)
    { s with world := { s.world with parked := parked } }

end Shared

end DataAccess
