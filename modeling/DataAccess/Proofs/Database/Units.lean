import DataAccess.Proofs.Database.Outcome

/-!
# `DataAccess.Proofs.Database.Units`: openings and closings

What an opening and a closing of a unit of work do to the units and what
they ask of the source, in all cases. `Database.closeUnit` is any of the
two closings, by its verdict on the transaction.

An opening joins what is open (`openUnit_joins`) or gets a connection
(`openUnit_cases`). A closing finds nothing open (`closeUnit_unopened`),
is nested (`closeUnit_nested`) or gives the connection back
(`closeUnit_outermost`). Everything that is said elsewhere about
connections, transactions and depths comes from these lemmas.
-/

set_option autoImplicit false

namespace DataAccess

variable {σ : Type}

namespace Database

variable (db : Database σ)

/-- A closing: of a transaction by the verdict on it, or of a unit that
has no verdict. -/
def closeUnit (verdict : Option Bool) : Work (Session σ) Unit :=
  match verdict with
  | none => db.closeConnection
  | some commit => db.closeTransaction commit

/-! ### Openings -/

/-- An opening joins the connection that is there, and asks nothing of
the source. -/
theorem openUnit_joins {s : Session σ} {c : ConnectionId} (h : s.units.connection = some c)
    (level : Option Isolation) :
    (db.openUnit level).exec s = (.ok (), { s with units := s.units.join }) := by
  rw [openUnit, Work.exec_get_bind, h]
  rfl

/-- Without a connection an opening fails as getting one does, and
changes no units. -/
theorem openUnit_refused {db : Database σ} {s : Session σ} (h : s.units.connection = none)
    {level : Option Isolation} {e : Error} {world : σ}
    (hconnect : (db.connect level).exec s.world = (.error e, world)) :
    (db.openUnit level).exec s = (.error e, ⟨s.units, world⟩) := by
  have hworld : (Session.onWorld (db.connect level)).exec s = (.error e, ⟨s.units, world⟩) := by
    rw [Session.onWorld, Work.exec_within, hconnect]
  rw [openUnit, Work.exec_get_bind, h]
  exact Work.exec_bind_error hworld

/-- With a connection there is a unit on it. -/
theorem openUnit_connected {db : Database σ} {s : Session σ} (h : s.units.connection = none)
    {level : Option Isolation} {c : ConnectionId} {world : σ}
    (hconnect : (db.connect level).exec s.world = (.ok c, world)) :
    (db.openUnit level).exec s = (.ok (), ⟨s.units.enter c level.isSome, world⟩) := by
  have hworld : (Session.onWorld (db.connect level)).exec s = (.ok c, ⟨s.units, world⟩) := by
    rw [Session.onWorld, Work.exec_within, hconnect]
  rw [openUnit, Work.exec_get_bind, h]
  exact Work.exec_bind_ok hworld

/-- Without a connection an opening gets one or changes no units. -/
theorem openUnit_cases {s : Session (Recorded Event σ)} (h : s.units.connection = none)
    (level : Option Isolation) :
    (∃ e events world, (db.recorded.openUnit level).exec s = (.error e, ⟨s.units, world⟩) ∧
      world.log = s.world.log ++ events ∧ Opening level (.error e) events) ∨
    ∃ c events world,
      (db.recorded.openUnit level).exec s = (.ok (), ⟨s.units.enter c level.isSome, world⟩) ∧
      world.log = s.world.log ++ events ∧ Opening level (.ok c) events := by
  -- What connecting notes down is an opening, whether there is a connection or not.
  obtain ⟨events, hrecorded, hopening, -⟩ := connect_notes id db level s.world
  rw [List.map_id] at hrecorded
  rcases hrun : (db.connect level).exec s.world.state with ⟨e | c, state⟩ <;>
    rw [hrun] at hrecorded hopening
  · exact Or.inl ⟨e, events, _, openUnit_refused h hrecorded, rfl, hopening⟩
  · exact Or.inr ⟨c, events, _, openUnit_connected h hrecorded, rfl, hopening⟩

/-! ### Closings -/

/-- A closing leaves the unit, and gives the connection back if it was the
outermost one. -/
theorem closeUnit_eq (verdict : Option Bool) :
    db.closeUnit verdict = Session.onUnits Units.leave >>= fun left =>
      match left with
      | none => pure ()
      | some (c, transactional) => Session.onWorld (db.giveBack c transactional verdict) := by
  cases verdict <;> rfl

/-- Without an open unit a closing fails and changes nothing. -/
theorem closeUnit_unopened {s : Session σ} (h : s.units.openCalls = 0) (verdict : Option Bool) :
    (db.closeUnit verdict).exec s = (.error (.connection .closeWithoutOpen), s) := by
  have hleave : (Session.onUnits Units.leave).exec s
      = (.error (.connection .closeWithoutOpen), s) := by
    rw [Session.onUnits, Work.exec_within, Units.leave, Work.exec_get_bind, h]
    rfl
  rw [closeUnit_eq, Work.exec_bind_error hleave]

/-- The closing of a nested unit only counts. -/
theorem closeUnit_nested {s : Session σ} {n : Nat} (h : s.units.openCalls = n + 2)
    (verdict : Option Bool) :
    (db.closeUnit verdict).exec s
      = (.ok (), { s with units := { s.units with openCalls := n + 1 } }) := by
  have hleave : (Session.onUnits Units.leave).exec s
      = (.ok none, { s with units := { s.units with openCalls := n + 1 } }) := by
    rw [Session.onUnits, Work.exec_within, Units.leave, Work.exec_get_bind, h]
    rfl
  rw [closeUnit_eq, Work.exec_bind_ok hleave]
  rfl

/-- Leaving the outermost unit tells the connection that it had, and
empties the record. -/
theorem leave_outermost {s : Session σ} (h : s.units.openCalls = 1) :
    (Session.onUnits Units.leave).exec s
      = (.ok (s.units.connection.map fun c => (c, s.units.transactional)), ⟨{}, s.world⟩) := by
  rw [Session.onUnits, Work.exec_within, Units.leave, Work.exec_get_bind, h]
  rfl

/-- Without a connection there is nothing to give back. -/
theorem closeUnit_vacant {s : Session σ} (h : s.units.openCalls = 1)
    (hc : s.units.connection = none) (verdict : Option Bool) :
    (db.closeUnit verdict).exec s = (.ok (), ⟨{}, s.world⟩) := by
  have hleave := leave_outermost h
  rw [hc] at hleave
  rw [closeUnit_eq, Work.exec_bind_ok hleave]
  rfl

/-- The closing of the outermost unit leaves no units, and gives its
connection back. -/
theorem closeUnit_giveBack {s : Session σ} {c : ConnectionId} (h : s.units.openCalls = 1)
    (hc : s.units.connection = some c) (verdict : Option Bool) :
    (db.closeUnit verdict).exec s
      = (((db.giveBack c s.units.transactional verdict).exec s.world).1,
          ⟨{}, ((db.giveBack c s.units.transactional verdict).exec s.world).2⟩) := by
  have hleave := leave_outermost h
  rw [hc] at hleave
  rw [closeUnit_eq, Work.exec_bind_ok hleave]
  rfl

/-- What the closing of the outermost unit asks of the source does not
depend on how that goes. -/
theorem closeUnit_outermost {s : Session (Recorded Event σ)} {c : ConnectionId}
    (h : s.units.openCalls = 1) (hc : s.units.connection = some c) (verdict : Option Bool) :
    ∃ result events world,
      (db.recorded.closeUnit verdict).exec s = (result, ⟨{}, world⟩) ∧
      world.log = s.world.log ++ events ∧
      Closing c (if s.units.transactional then verdict else none) events := by
  -- The units are left before the source is asked, so they are empty in any case.
  obtain ⟨events, hrecorded, hclosing, -⟩ :=
    giveBack_notes id db c s.units.transactional verdict s.world
  have hclosed := db.recorded.closeUnit_giveBack h hc verdict
  rw [show db.recorded = db.noted id from rfl, hrecorded, List.map_id] at hclosed
  exact ⟨_, events, _, hclosed, rfl, hclosing⟩

/-! ### Statements -/

/-- The connection of an open unit. -/
theorem connection_exec {s : Session σ} {c : ConnectionId} (h : s.units.connection = some c) :
    connection.exec s = (.ok c, s) := by
  rw [connection, Work.exec_get_bind, h]
  rfl

/-- Without a unit there is no connection. -/
theorem connection_unopened {s : Session σ} (h : s.units.connection = none) :
    connection.exec s = (.error (.connection .notOpen), s) := by
  rw [connection, Work.exec_get_bind, h]
  rfl

/-- Without a unit no statement is executed. -/
theorem execute_unsent {s : Session σ} (h : s.units.connection = none) (statement : Statement) :
    (db.execute statement).exec s = (.error (.connection .notOpen), s) := by
  rw [execute, Work.exec_bind_error (connection_unopened h)]

/-- Without a unit no rows are fetched. -/
theorem fetch_unsent {s : Session σ} (h : s.units.connection = none) (statement : Statement) :
    (db.fetch statement).exec s = (.error (.connection .notOpen), s) := by
  rw [fetch, Work.exec_bind_error (connection_unopened h)]

/-- A statement is sent on the connection that is there. -/
theorem execute_sent {s : Session (Recorded Event σ)} {c : ConnectionId}
    (h : s.units.connection = some c) (statement : Statement) :
    ∃ result world, (db.recorded.execute statement).exec s = (result, ⟨s.units, world⟩) ∧
      world.log = s.world.log ++ [.execute c ⟨db.dialect, statement⟩ result] := by
  rw [execute, Work.exec_bind_ok (connection_exec h)]
  exact ⟨_, _, rfl, rfl⟩

/-- Inside a unit a fetch is sent on its connection, and noted with its
result. -/
theorem fetch_sent {s : Session (Recorded Event σ)} {c : ConnectionId}
    (h : s.units.connection = some c) (statement : Statement) :
    ∃ result world, (db.recorded.fetch statement).exec s = (result, ⟨s.units, world⟩) ∧
      world.log = s.world.log ++ [.fetch c ⟨db.dialect, statement⟩ result] := by
  rw [fetch, Work.exec_bind_ok (connection_exec h)]
  exact ⟨_, _, rfl, rfl⟩

end Database

end DataAccess
