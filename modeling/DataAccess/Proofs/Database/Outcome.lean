import DataAccess.Proofs.Database.Recorded

/-!
# `DataAccess.Proofs.Database.Outcome`: what is asked, and what it ends with

`Opening` lists the ways in which a connection can be asked for and a
transaction begun on it, `Closing` what is asked when a connection goes
back. That is all that an opening and a closing ask of a source, and the
first thing that goes wrong is what they end with (`connect_notes`,
`giveBack_notes`); whoever opened or closed the unit is told of it as
`Event.failure?` says.
-/

set_option autoImplicit false

namespace DataAccess

variable {σ κ α : Type}

/-- What is asked of a source to open a unit without a connection to
join, with a transaction if `level` is given, and how that ends. -/
inductive Opening (level : Option Isolation) : Result ConnectionId → List Event → Prop where
  /-- There is no connection to be had. -/
  | refused (e reason : Error) : Opening level (.error e) [.acquire (.error reason)]
  /-- There is a connection, and no transaction is wanted. -/
  | acquired (c : ConnectionId) (plain : level = none) : Opening level (.ok c) [.acquire (.ok c)]
  /-- There is a connection, and a transaction began on it. -/
  | begun (c : ConnectionId) (isolation : Isolation) (wanted : level = some isolation) :
      Opening level (.ok c) [.acquire (.ok c), .begin c isolation (.ok ())]
  /-- The transaction did not begin, and the connection went back. -/
  | failed (c : ConnectionId) (isolation : Isolation) (wanted : level = some isolation)
      (e reason : Error) (released : Result Unit) :
      Opening level (.error e)
        [.acquire (.ok c), .begin c isolation (.error reason), .release c released]

/-- The end of a transaction. -/
def finishing (c : ConnectionId) (commit : Bool) (result : Result Unit) : Event :=
  if commit then .commit c result else .rollback c result

/-- What is asked of a source to close the outermost unit: the
transaction ends as the verdict says, if there are both, and the
connection goes back in any case. -/
inductive Closing (c : ConnectionId) : Option Bool → List Event → Prop where
  /-- No transaction ends. -/
  | plain (released : Result Unit) : Closing c none [.release c released]
  /-- The transaction ends. -/
  | ended (commit : Bool) (result released : Result Unit) :
      Closing c (some commit) [finishing c commit result, .release c released]

/-- A statement that was sent on the connection. -/
inductive Stated (c : ConnectionId) : Event → Prop where
  | execute (command : Command) (result : Result Written) : Stated c (.execute c command result)
  | fetch (command : Command) (result : Result (List Row)) : Stated c (.fetch c command result)

/-- The event is a statement. -/
def Event.isStatement : Event → Bool
  | .execute .. | .fetch .. => true
  | _ => false

/-- Opening a unit sends no statement. -/
theorem Opening.unstated {level : Option Isolation} {result : Result ConnectionId}
    {events : List Event} (h : Opening level result events) :
    ∀ event ∈ events, event.isStatement = false := by
  cases h <;> simp [Event.isStatement]

/-- Closing a unit sends no statement. -/
theorem Closing.unstated {c : ConnectionId} {verdict : Option Bool} {events : List Event}
    (h : Closing c verdict events) : ∀ event ∈ events, event.isStatement = false := by
  cases h with
  | plain => simp [Event.isStatement]
  | ended commit => cases commit <;> simp [finishing, Event.isStatement]

/-- The error of a result, if it is one. -/
def Result.failure? (result : Result α) : Option Error :=
  match result with
  | .ok _ => none
  | .error e => some e

/-- A result has a failure just if it is this error. -/
theorem Result.failure?_eq_some {result : Result α} {e : Error} :
    result.failure? = some e ↔ result = .error e := by
  cases result <;> simp [failure?]

/-- A result has no failure just if there is an outcome. -/
theorem Result.failure?_eq_none {result : Result Unit} :
    result.failure? = none ↔ result = .ok () := by
  cases result <;> simp [failure?]

/-- What went wrong with a call of the source, as the unit of work
reports it: openings and closings fail for the connection, a statement
fails with the error it met. -/
def Event.failure? : Event → Option Error
  | .acquire (.error e) => some (.ofStep .acquire e)
  | .begin _ _ (.error e) => some (.ofStep .begin e)
  | .commit _ (.error e) | .rollback _ (.error e) => some (.ofStep .finish e)
  | .release _ (.error e) => some (.ofStep .release e)
  | .execute _ _ (.error e) => some e
  | .fetch _ _ (.error e) => some e
  | _ => none

/-- What went wrong, in order. -/
def failures (events : List Event) : List Error :=
  events.filterMap Event.failure?

namespace Database

open Recorded (Notes)

/-! ### How an opening goes -/

section Connect
variable {db : Database σ} {s s₁ s₂ : σ} {c : ConnectionId} {level : Isolation}

/-- Without a connection nothing else is asked. -/
theorem connect_refused {e : Error} (level : Option Isolation)
    (h : db.source.acquire.exec s = (.error e, s₁)) :
    (db.connect level).exec s = (.error (.ofStep .acquire e), s₁) := by
  have hacquire : (db.source.acquire.mapError (.ofStep .acquire)).exec s
      = (.error (.ofStep .acquire e), s₁) := by
    rw [Work.exec_mapError, h]
    rfl
  exact Work.exec_bind_error hacquire

/-- Without a transaction the connection is enough. -/
theorem connect_acquired (h : db.source.acquire.exec s = (.ok c, s₁)) :
    (db.connect none).exec s = (.ok c, s₁) := by
  have hacquire : (db.source.acquire.mapError (.ofStep .acquire)).exec s = (.ok c, s₁) :=
    Work.exec_mapError_eq_ok.mpr h
  exact Work.exec_bind_ok hacquire

/-- With one it has to begin. -/
theorem connect_begun (h : db.source.acquire.exec s = (.ok c, s₁))
    (hbegin : (db.source.begin c level).exec s₁ = (.ok (), s₂)) :
    (db.connect (some level)).exec s = (.ok c, s₂) := by
  have hacquire : (db.source.acquire.mapError (.ofStep .acquire)).exec s = (.ok c, s₁) :=
    Work.exec_mapError_eq_ok.mpr h
  have hattempt : (db.source.begin c level).attempt.exec s₁ = (.ok (.ok ()), s₂) := by
    rw [Work.exec_attempt, hbegin]
  have hbegun : (db.beginOn c level).exec s₁ = (.ok (), s₂) := Work.exec_bind_ok hattempt
  exact (Work.exec_bind_ok hacquire).trans (Work.exec_bind_ok hbegun)

/-- A connection on which no transaction began goes back, and how that
goes makes no difference. -/
theorem connect_failed {e : Error} {released : Result Unit} {s₃ : σ}
    (h : db.source.acquire.exec s = (.ok c, s₁))
    (hbegin : (db.source.begin c level).exec s₁ = (.error e, s₂))
    (hrelease : (db.source.release c).exec s₂ = (released, s₃)) :
    (db.connect (some level)).exec s = (.error (.ofStep .begin e), s₃) := by
  have hacquire : (db.source.acquire.mapError (.ofStep .acquire)).exec s = (.ok c, s₁) :=
    Work.exec_mapError_eq_ok.mpr h
  have hattempt : (db.source.begin c level).attempt.exec s₁ = (.ok (.error e), s₂) := by
    rw [Work.exec_attempt, hbegin]
  -- The error of giving back is caught, and forgotten.
  have hback : (db.source.release c).attempt.exec s₂ = (.ok released, s₃) := by
    rw [Work.exec_attempt, hrelease]
  have hfailed : (db.beginOn c level).exec s₁ = (.error (.ofStep .begin e), s₃) :=
    (Work.exec_bind_ok hattempt).trans (Work.exec_bind_ok hback)
  exact (Work.exec_bind_ok hacquire).trans (Work.exec_bind_error hfailed)

end Connect

/-! ### The calls of a noted source -/

section Noted
variable {db : Database σ} {entry : Event → κ} {r : Recorded κ σ} {c : ConnectionId} {state : σ}

/-- A source that notes its events notes the acquiring of a connection. -/
theorem acquire_noted {result : Result ConnectionId}
    (h : db.source.acquire.exec r.state = (result, state)) :
    (db.noted entry).source.acquire.exec r
      = (result, ⟨r.log ++ [entry (.acquire result)], state⟩) :=
  Recorded.exec_noting (fun result => entry (.acquire result)) h

/-- A source that notes its events notes the beginning of a transaction. -/
theorem begin_noted {level : Isolation} {result : Result Unit}
    (h : (db.source.begin c level).exec r.state = (result, state)) :
    ((db.noted entry).source.begin c level).exec r
      = (result, ⟨r.log ++ [entry (.begin c level result)], state⟩) :=
  Recorded.exec_noting (fun result => entry (.begin c level result)) h

/-- A source that notes its events notes the end of a transaction,
whichever that is. -/
theorem finish_noted {commit : Bool} {result : Result Unit}
    (h : (if commit then db.source.commit c else db.source.rollback c).exec r.state
      = (result, state)) :
    (if commit then (db.noted entry).source.commit c
        else (db.noted entry).source.rollback c).exec r
      = (result, ⟨r.log ++ [entry (finishing c commit result)], state⟩) := by
  cases commit
  · exact Recorded.exec_noting (fun result => entry (.rollback c result)) h
  · exact Recorded.exec_noting (fun result => entry (.commit c result)) h

/-- A source that notes its events notes the release of a connection. -/
theorem release_noted {result : Result Unit}
    (h : (db.source.release c).exec r.state = (result, state)) :
    ((db.noted entry).source.release c).exec r
      = (result, ⟨r.log ++ [entry (.release c result)], state⟩) :=
  Recorded.exec_noting (fun result => entry (.release c result)) h

end Noted

/-- An opening asks what `Opening` lists, and fails with the first thing
that goes wrong. -/
theorem connect_notes (entry : Event → κ) (db : Database σ) (level : Option Isolation) :
    Notes entry
      (fun result events => Opening level result events ∧
        result.failure? = (failures events).head?)
      ((db.noted entry).connect level) (db.connect level) := by
  intro r
  -- In the order in which the source is asked: what fails first is the last thing
  -- but for the release.
  rcases hacquire : db.source.acquire.exec r.state with ⟨e | c, state⟩
  · rw [connect_refused level hacquire, connect_refused level (acquire_noted hacquire)]
    exact ⟨[.acquire (.error e)], rfl, .refused _ e, rfl⟩
  cases level with
  | none =>
      rw [connect_acquired hacquire, connect_acquired (acquire_noted hacquire)]
      exact ⟨[.acquire (.ok c)], rfl, .acquired c rfl, rfl⟩
  | some level =>
      rcases hbegin : (db.source.begin c level).exec state with ⟨e | _, state₁⟩
      · rcases hrelease : (db.source.release c).exec state₁ with ⟨released, state₂⟩
        rw [connect_failed hacquire hbegin hrelease, connect_failed (acquire_noted hacquire)
          (begin_noted hbegin) (release_noted hrelease)]
        refine ⟨[.acquire (.ok c), .begin c level (.error e), .release c released], ?_,
          .failed c level rfl _ e released, rfl⟩
        simp
      · rw [connect_begun hacquire hbegin, connect_begun (acquire_noted hacquire)
          (begin_noted hbegin)]
        exact ⟨[.acquire (.ok c), .begin c level (.ok ())], by simp, .begun c level rfl, rfl⟩

/-! ### How a closing goes -/

/-- What a closing does with the connection of the outermost unit. -/
def giveBack (db : Database σ) (c : ConnectionId) (transactional : Bool)
    (verdict : Option Bool) : Work σ Unit :=
  match verdict with
  | none => db.releaseOf c
  | some commit => (db.finishOf c transactional commit).concluding fun _ => db.releaseOf c

/-- A connection goes back, with the error of its release. -/
theorem exec_releaseOf {db : Database σ} {c : ConnectionId} {s s' : σ} {released : Result Unit}
    (h : (db.source.release c).exec s = (released, s')) :
    (db.releaseOf c).exec s = (released.mapError (.ofStep .release), s') := by
  rw [releaseOf, Work.exec_mapError, h]

/-- Without a transaction, or without a verdict on it, the connection
only goes back. -/
theorem giveBack_plain (db : Database σ) (c : ConnectionId) {transactional : Bool}
    {verdict : Option Bool} (h : (if transactional then verdict else none) = none) :
    db.giveBack c transactional verdict = db.releaseOf c := by
  cases verdict with
  | none => rfl
  | some commit =>
      cases transactional with
      | true => cases h
      | false =>
          apply Work.ext
          intro s
          -- There is nothing to be concluded: the error is that of the release.
          show (Work.concluded (.ok ()) ((db.releaseOf c).exec s).1, ((db.releaseOf c).exec s).2)
            = _
          rcases (db.releaseOf c).exec s with ⟨_ | _, s'⟩ <;> rfl

/-- The transaction is ended first, and its error counts before that of the
release. -/
theorem giveBack_ended {db : Database σ} {c : ConnectionId} {commit : Bool}
    {result released : Result Unit} {s s₁ s₂ : σ}
    (h : (if commit then db.source.commit c else db.source.rollback c).exec s = (result, s₁))
    (hrelease : (db.source.release c).exec s₁ = (released, s₂)) :
    (db.giveBack c true (some commit)).exec s
      = (Work.concluded (result.mapError (.ofStep .finish)) (released.mapError (.ofStep .release)),
          s₂) := by
  have hfinish : (db.finishOf c true commit).exec s
      = (result.mapError (.ofStep .finish), s₁) := by
    rw [finishOf, if_pos rfl, Work.exec_mapError, h]
  rw [giveBack, Work.exec_concluding, hfinish, exec_releaseOf hrelease]

/-- A closing asks what `Closing` lists, and fails with the first thing
that goes wrong. -/
theorem giveBack_notes (entry : Event → κ) (db : Database σ) (c : ConnectionId)
    (transactional : Bool) (verdict : Option Bool) :
    Notes entry
      (fun result events => Closing c (if transactional then verdict else none) events ∧
        result.failure? = (failures events).head?)
      ((db.noted entry).giveBack c transactional verdict)
      (db.giveBack c transactional verdict) := by
  intro r
  cases hverdict : (if transactional then verdict else none) with
  | none =>
      rcases hrelease : (db.source.release c).exec r.state with ⟨released, state⟩
      rw [giveBack_plain db c hverdict, giveBack_plain _ c hverdict, exec_releaseOf hrelease,
        exec_releaseOf (release_noted hrelease)]
      refine ⟨[.release c released], rfl, .plain released, ?_⟩
      cases released <;> rfl
  | some commit =>
      -- A verdict that counts is one on a transaction.
      obtain ⟨rfl, rfl⟩ : transactional = true ∧ verdict = some commit := by
        cases transactional with
        | true => exact ⟨rfl, hverdict⟩
        | false => cases hverdict
      rcases hfinish : (if commit then db.source.commit c else db.source.rollback c).exec r.state
        with ⟨result, state⟩
      rcases hrelease : (db.source.release c).exec state with ⟨released, state₁⟩
      rw [giveBack_ended hfinish hrelease, giveBack_ended (finish_noted hfinish)
        (release_noted hrelease)]
      refine ⟨[finishing c commit result, .release c released], by simp,
        .ended commit result released, ?_⟩
      cases commit <;> cases result <;> cases released <;> rfl

end Database

end DataAccess
