import DataAccess.Proofs.Database.Tracked
import DataAccess.Proofs.Database.UnitProgram

/-!
# `DataAccess.Proofs.Database.Inside`: work that stays in its unit

Work that is handed in, such as a hook or what is done in a transaction,
may do as it likes with the units of work. `Inside view P w` says that it
does not end the unit it is run in: whenever a unit is open, it asks of the
source nothing but statements on the connection that is there, which `P`
relates to its outcome, and the unit is open afterwards, on the same
connection. It may open units of its own, and need not close all of them.

Trees of units stay inside (`Inside.of_isTree`), and there is a rule for
every way of putting work together.
-/

set_option autoImplicit false

namespace DataAccess

variable {σ τ S T α β : Type}

/-- The work leaves the unit open that it is run in, and only sends
statements on its connection, which `P` relates to the outcome. -/
def Inside (view : S → Session (Recorded Event σ)) (P : Result α → List Event → Prop)
    (w : Work S α) : Prop :=
  ∀ p c, (view p).units.connection = some c → 0 < (view p).units.openCalls →
    (view (w.exec p).2).units.connection = some c ∧
      (view (w.exec p).2).units.transactional = (view p).units.transactional ∧
      0 < (view (w.exec p).2).units.openCalls ∧
      ∃ events, (view (w.exec p).2).world.log = (view p).world.log ++ events ∧
        (∀ e ∈ events, Stated c e) ∧ P (w.exec p).1 events

/-- The work leaves the unit open that it is run in. -/
def Stays (view : S → Session (Recorded Event σ)) (w : Work S α) : Prop :=
  Inside view (fun _ _ => True) w

namespace Inside

section Rules
variable {view : S → Session (Recorded Event σ)} {P Q : Result α → List Event → Prop}
  {R : Result β → List Event → Prop} {w : Work S α}

/-- What holds of results and events may be weakened. -/
theorem mono (h : Inside view P w) (hPQ : ∀ result events, P result events → Q result events) :
    Inside view Q w := by
  intro p c hc hopen
  obtain ⟨hconnection, htransactional, hcalls, events, hlog, hstated, hP⟩ := h p c hc hopen
  exact ⟨hconnection, htransactional, hcalls, events, hlog, hstated, hPQ _ _ hP⟩

/-- A result by itself touches no source. -/
theorem ofResult {r : Result α} (h : P r []) : Inside view P (Work.ofResult r) :=
  fun _ _ hc hopen => ⟨hc, rfl, hopen, [], (List.append_nil _).symm, by simp, h⟩

/-- A value by itself touches no source. -/
theorem pure {a : α} (h : P (.ok a) []) : Inside view P (Pure.pure a) :=
  ofResult h

/-- Both parts stay inside, and so does the whole. -/
theorem bind {Q : α → Result β → List Event → Prop} {f : α → Work S β} (h : Inside view P w)
    (hf : ∀ a, Inside view (Q a) (f a)) (herror : ∀ e events, P (.error e) events →
      R (.error e) events)
    (hok : ∀ a result events later, P (.ok a) events → Q a result later →
      R result (events ++ later)) : Inside view R (w >>= f) := by
  intro p c hc hopen
  obtain ⟨hconnection, htransactional, hcalls, events, hlog, hstated, hP⟩ := h p c hc hopen
  -- The second part runs only if the first one succeeds.
  rcases hrun : w.exec p with ⟨e | a, q⟩ <;>
    rw [hrun] at hconnection htransactional hcalls hlog hP
  · rw [Work.exec_bind_error hrun]
    exact ⟨hconnection, htransactional, hcalls, events, hlog, hstated, herror _ _ hP⟩
  · obtain ⟨hconnection', htransactional', hcalls', later, hlog', hstated', hQ⟩ :=
      hf a q c hconnection hcalls
    rw [Work.exec_bind_ok hrun]
    refine ⟨hconnection', htransactional'.trans htransactional, hcalls', events ++ later, ?_,
      List.forall_mem_append.mpr ⟨hstated, hstated'⟩, hok _ _ _ _ hP hQ⟩
    rw [hlog', hlog, List.append_assoc]

/-- What concludes work stays inside, however the work ended. -/
theorem concluding {C : Result Unit → List Event → Prop} {conclusion : Bool → Work S Unit}
    (h : Inside view P w) (hconclusion : ∀ success, Inside view C (conclusion success))
    (hQ : ∀ own late events later, P own events → C late later →
      Q (Work.concluded own late) (events ++ later)) :
    Inside view Q (w.concluding conclusion) := by
  intro p c hc hopen
  obtain ⟨hconnection, htransactional, hcalls, events, hlog, hstated, hP⟩ := h p c hc hopen
  -- The unit is still open where the conclusion starts.
  obtain ⟨hconnection', htransactional', hcalls', later, hlog', hstated', hC⟩ :=
    hconclusion (w.exec p).1.isOk (w.exec p).2 c hconnection hcalls
  rw [Work.exec_concluding]
  refine ⟨hconnection', htransactional'.trans htransactional, hcalls', events ++ later, ?_,
    List.forall_mem_append.mpr ⟨hstated, hstated'⟩, hQ _ _ _ _ hP hC⟩
  rw [hlog', hlog, List.append_assoc]

/-- Errors may be reported as others. -/
theorem mapError {f : Error → Error} (h : Inside view P w)
    (hQ : ∀ own events, P own events → Q (own.mapError f) events) :
    Inside view Q (w.mapError f) := by
  intro p c hc hopen
  obtain ⟨hconnection, htransactional, hcalls, events, hlog, hstated, hP⟩ := h p c hc hopen
  rw [Work.exec_mapError]
  exact ⟨hconnection, htransactional, hcalls, events, hlog, hstated, hQ _ _ hP⟩

/-- The state is read and stays as it is. -/
theorem get_bind {f : S → Work S α} (h : ∀ p, Inside view P (f p)) : Inside view P (get >>= f) :=
  fun p => h p p

end Rules

/-- Work inside a session stays inside it, whatever its subject is. -/
theorem onSession {P : Result α → List Event → Prop} {w : Work (Session (Recorded Event σ)) α}
    (h : Inside id P w) : Inside (Prod.snd (α := τ)) P (Database.onSession w) :=
  fun p => h p.2

/-- Work on a subject that is needed no longer. -/
theorem onCopy {P : Result α → List Event → Prop} (subject : τ)
    {w : Work (τ × Session (Recorded Event σ)) α} (h : Inside Prod.snd P w) :
    Inside id P (Dao.onCopy subject w) :=
  fun s => h (subject, s)

/-- A statement that writes is the only thing that is asked. -/
theorem execute (db : Database σ) (statement : Statement) :
    Inside id (fun result events => ∃ c, events = [.execute c ⟨db.dialect, statement⟩ result])
      (db.recorded.execute statement) := by
  intro s c hc hopen
  obtain ⟨result, world, hexec, hlog⟩ := db.execute_sent hc statement
  rw [show (db.recorded.execute statement).exec s = _ from hexec]
  exact ⟨hc, rfl, hopen, _, hlog, by simpa using Stated.execute _ _, c, rfl⟩

end Inside

namespace Stays

/-- A tree of units closes the units it opens, and no others. -/
theorem of_isTree {db : Database σ} {w : Work (τ × Session (Recorded Event σ)) α}
    (h : IsTree db.recorded w) : Stays Prod.snd w := by
  obtain ⟨t, rfl⟩ := h
  intro p c hc hopen
  obtain ⟨hunits, events, hlog, hstated⟩ := UnitTree.run_within db t hc hopen
  rw [hunits]
  exact ⟨hc, rfl, hopen, events, hlog, hstated, trivial⟩

/-- Every program over a database whose calls are noted stays inside the
open unit. -/
theorem of_isProgram {db : Database σ} {w : Work (Session (Recorded Event σ)) α}
    (h : IsProgram db.recorded w) : Stays id w :=
  fun s => of_isTree (h Unit) ((), s)

variable {view : S → Session (Recorded Event σ)}

/-- Work in two parts that both stay inside does. -/
theorem bind {w : Work S α} {f : α → Work S β} (h : Stays view w)
    (hf : ∀ a, Stays view (f a)) : Stays view (w >>= f) :=
  Inside.bind h hf (fun _ _ _ => trivial) fun _ _ _ _ _ _ => trivial

/-- Work with its conclusion stays inside if both do. -/
theorem concluding {w : Work S α} {conclusion : Bool → Work S Unit} (h : Stays view w)
    (hconclusion : ∀ success, Stays view (conclusion success)) :
    Stays view (w.concluding conclusion) :=
  Inside.concluding h hconclusion fun _ _ _ _ _ _ => trivial

/-- Work between an opening and a closing stays inside if all three do. -/
theorem enclosed {opening : Work S Unit} {closing : Bool → Work S Unit} {w : Work S α}
    (hopening : Stays view opening) (hclosing : ∀ success, Stays view (closing success))
    (h : Stays view w) : Stays view (Work.enclosed opening closing w) :=
  hopening.bind fun _ => h.concluding hclosing

end Stays

end DataAccess
