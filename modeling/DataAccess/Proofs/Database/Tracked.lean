import DataAccess.Dao.Basic
import DataAccess.Proofs.Database.Units

/-!
# `DataAccess.Proofs.Database.Tracked`: sessions over a noted source

Work in units of work, done twice: on a session, and on one whose source
keeps a record. `Tracks v P noted w` says that the two do the same, and
that `P` holds of the units before and after, of what is added to the
record, and of the outcome. The record is found, and left out, by a `View`
of the state: `View.alone` of a session, `View.beside` of a session next
to a subject.

There is a rule for every way of putting work together, and then the
openings, the closings and the statements, which are what all work with a
database is made of.
-/

set_option autoImplicit false

namespace DataAccess

variable {σ κ τ S T α β : Type}

/-- A state with a session that has a record. -/
structure View (S T σ κ : Type) where
  /-- The state without the record. -/
  erase : S → T
  /-- The session. -/
  session : S → Session (Recorded κ σ)

/-- A session. -/
def View.alone : View (Session (Recorded κ σ)) (Session σ) σ κ :=
  ⟨Session.erased, id⟩

/-- A session and a subject. -/
def View.beside : View (τ × Session (Recorded κ σ)) (τ × Session σ) σ κ :=
  ⟨fun p => (p.1, p.2.erased), Prod.snd⟩

/-- The two pieces of work do the same, but for what the first one adds to
the record. `P` relates the units before and after it, what is added, and
the outcome. -/
def Tracks (v : View S T σ κ) (P : Units → Units → List κ → Result α → Prop)
    (noted : Work S α) (w : Work T α) : Prop :=
  ∀ p, ∃ added,
    w.exec (v.erase p) = ((noted.exec p).1, v.erase (noted.exec p).2) ∧
      (v.session (noted.exec p).2).world.log = (v.session p).world.log ++ added ∧
      P (v.session p).units (v.session (noted.exec p).2).units added (noted.exec p).1

namespace Tracks

section Rules
variable {v : View S T σ κ} {P Q : Units → Units → List κ → Result α → Prop}
  {R : Units → Units → List κ → Result β → Prop} {noted : Work S α} {w : Work T α}

/-- What is tracked may be said less exactly. -/
theorem mono (h : Tracks v P noted w)
    (hPQ : ∀ u u' added result, P u u' added result → Q u u' added result) :
    Tracks v Q noted w := by
  intro p
  obtain ⟨added, hsame, hlog, hP⟩ := h p
  exact ⟨added, hsame, hlog, hPQ _ _ _ _ hP⟩

/-- An outcome that is known beforehand adds nothing. -/
theorem ofResult {r : Result α} (h : ∀ u, P u u [] r) :
    Tracks v P (Work.ofResult r) (Work.ofResult r) :=
  fun _ => ⟨[], rfl, (List.append_nil _).symm, h _⟩

/-- To return something asks nothing of the source. -/
theorem pure {a : α} (h : ∀ u, P u u [] (.ok a)) : Tracks v P (Pure.pure a) (Pure.pure a) :=
  fun _ => ⟨[], rfl, (List.append_nil _).symm, h _⟩

/-- To fail asks nothing of the source. -/
theorem fail {e : Error} (h : ∀ u, P u u [] (.error e)) :
    Tracks v P (Work.fail e : Work S α) (Work.fail e) :=
  fun _ => ⟨[], rfl, (List.append_nil _).symm, h _⟩

/-- What follows work is tracked after it, unless the work failed. -/
theorem bind {Q : α → Units → Units → List κ → Result β → Prop} {noted' : α → Work S β}
    {w' : α → Work T β} (h : Tracks v P noted w) (h' : ∀ a, Tracks v (Q a) (noted' a) (w' a))
    (herror : ∀ u u' added e, P u u' added (.error e) → R u u' added (.error e))
    (hok : ∀ u u₁ u₂ added later a result, P u u₁ added (.ok a) → Q a u₁ u₂ later result →
      R u u₂ (added ++ later) result) :
    Tracks v R (noted >>= noted') (w >>= w') := by
  intro p
  obtain ⟨added, hsame, hlog, hP⟩ := h p
  -- If the first part fails, what it added is all.
  rcases hrun : noted.exec p with ⟨e | a, q⟩ <;> rw [hrun] at hsame hlog hP
  · rw [Work.exec_bind_error hrun, Work.exec_bind_error hsame]
    exact ⟨added, rfl, hlog, herror _ _ _ _ hP⟩
  · obtain ⟨later, hsame', hlog', hQ⟩ := h' a q
    rw [Work.exec_bind_ok hrun, Work.exec_bind_ok hsame]
    refine ⟨added ++ later, hsame', ?_, hok _ _ _ _ _ _ _ hP hQ⟩
    rw [hlog', hlog, List.append_assoc]

/-- An error that is replaced adds nothing either. -/
theorem mapError {f : Error → Error} (h : Tracks v P noted w) :
    Tracks v (fun u u' added result => ∃ own, P u u' added own ∧ result = own.mapError f)
      (noted.mapError f) (w.mapError f) := by
  intro p
  obtain ⟨added, hsame, hlog, hP⟩ := h p
  rw [Work.exec_mapError, Work.exec_mapError, hsame]
  exact ⟨added, rfl, hlog, _, hP, rfl⟩

/-- What concludes work is told whether it failed, and the first error
counts. -/
theorem concluding {C : Bool → Units → Units → List κ → Result Unit → Prop}
    {noted' : Bool → Work S Unit} {w' : Bool → Work T Unit} (h : Tracks v P noted w)
    (h' : ∀ success, Tracks v (C success) (noted' success) (w' success))
    (hQ : ∀ u u₁ u₂ added later own late, P u u₁ added own → C own.isOk u₁ u₂ later late →
      Q u u₂ (added ++ later) (Work.concluded own late)) :
    Tracks v Q (noted.concluding noted') (w.concluding w') := by
  intro p
  obtain ⟨added, hsame, hlog, hP⟩ := h p
  obtain ⟨later, hsame', hlog', hC⟩ := h' (noted.exec p).1.isOk (noted.exec p).2
  rw [Work.exec_concluding, Work.exec_concluding, hsame, hsame']
  refine ⟨added ++ later, rfl, ?_, hQ _ _ _ _ _ _ _ hP hC⟩
  rw [hlog', hlog, List.append_assoc]

end Rules

/-! ### A session next to a subject -/

section Beside
variable {P : Units → Units → List κ → Result α → Prop}

/-- Work on the session is tracked beside any subject. -/
theorem onSession {noted : Work (Session (Recorded κ σ)) α} {w : Work (Session σ) α}
    (h : Tracks View.alone P noted w) :
    Tracks (View.beside (τ := τ)) P (Database.onSession noted) (Database.onSession w) := by
  intro p
  obtain ⟨added, hsame, hlog, hP⟩ := h p.2
  refine ⟨added, ?_, hlog, hP⟩
  show (((w.exec p.2.erased).1, (p.1, (w.exec p.2.erased).2)) : Result α × τ × Session σ) = _
  rw [show w.exec p.2.erased = _ from hsame]
  rfl

/-- Work on the subject adds nothing. -/
theorem onSubject {w : Work τ α} (h : ∀ subject u, P u u [] (w.exec subject).1) :
    Tracks (View.beside (σ := σ)) P (Database.onSubject w) (Database.onSubject w) :=
  fun p => ⟨[], rfl, (List.append_nil _).symm, h p.1 _⟩

/-- The subject is read, and the session is not. -/
theorem subject_bind {noted : τ × Session (Recorded κ σ) → Work (τ × Session (Recorded κ σ)) α}
    {w : τ × Session σ → Work (τ × Session σ) α}
    (h : ∀ subject s s', Tracks View.beside P (noted (subject, s)) (w (subject, s'))) :
    Tracks View.beside P (get >>= noted) (get >>= w) :=
  fun p => h p.1 p.2 p.2.erased p

/-- Work on a subject that is needed no longer. -/
theorem onCopy (subject : τ) {noted : Work (τ × Session (Recorded κ σ)) α}
    {w : Work (τ × Session σ) α} (h : Tracks View.beside P noted w) :
    Tracks View.alone P (Dao.onCopy subject noted) (Dao.onCopy subject w) := by
  intro s
  obtain ⟨added, hsame, hlog, hP⟩ := h (subject, s)
  refine ⟨added, ?_, hlog, hP⟩
  -- A copy of the subject is worked on and thrown away.
  show (((w.exec (subject, s.erased)).1, (w.exec (subject, s.erased)).2.2)
    : Result α × Session σ) = _
  rw [show w.exec (subject, s.erased) = _ from hsame]
  rfl

end Beside

end Tracks

/-! ### Work on a copy -/

namespace Dao

variable {subject subject' : τ} {w : Work τ α} {f : α → Work (τ × Session σ) β}

/-- What is made of the subject first goes on with the subject it leaves. -/
theorem onCopy_onSubject_ok {a : α} (h : w.exec subject = (.ok a, subject')) :
    onCopy subject (Database.onSubject w >>= f) = onCopy subject' (f a) := by
  apply Work.ext
  intro s
  have hw : (Database.onSubject w).exec (subject, s) = (.ok a, (subject', s)) := by
    rw [Database.onSubject, Work.exec_within, h]
  rw [onCopy, Work.exec_of, Work.exec_bind_ok hw]
  rfl

/-- Work on the subject that fails is all there is. -/
theorem onCopy_onSubject_error {e : Error} (h : w.exec subject = (.error e, subject')) :
    onCopy subject (Database.onSubject w >>= f) = Work.fail e := by
  apply Work.ext
  intro s
  have hw : (Database.onSubject w).exec (subject, s) = (.error e, (subject', s)) := by
    rw [Database.onSubject, Work.exec_within, h]
  rw [onCopy, Work.exec_of, Work.exec_bind_error hw]
  rfl

end Dao

/-! ### Units and statements -/

/-- How an opening goes that finds the given units: the units it ends with,
what it asks of the source, and its outcome. -/
inductive Opens (level : Option Isolation) (u : Units) :
    Units → List Event → Result Unit → Prop where
  /-- There is a connection to be joined. -/
  | joined {c : ConnectionId} (there : u.connection = some c) : Opens level u u.join [] (.ok ())
  /-- There is no unit more, for the first thing that went wrong. -/
  | refused {e : Error} {events : List Event} (absent : u.connection = none)
      (asked : Opening level (.error e) events) (first : (failures events).head? = some e) :
      Opens level u u events (.error e)
  /-- There is a unit on a new connection, and nothing went wrong. -/
  | entered {c : ConnectionId} {events : List Event} (absent : u.connection = none)
      (asked : Opening level (.ok c) events) :
      Opens level u (u.enter c level.isSome) events (.ok ())

/-- How an opening without an open unit goes: the units it ends with, what
it asks of the source, and its outcome. -/
inductive Opened (level : Option Isolation) : Units → List Event → Result Unit → Prop where
  /-- There is no unit, for the first thing that went wrong. -/
  | refused {e : Error} {events : List Event} (asked : Opening level (.error e) events)
      (first : (failures events).head? = some e) : Opened level {} events (.error e)
  /-- There is a unit, and nothing went wrong. -/
  | opened {c : ConnectionId} {events : List Event} (asked : Opening level (.ok c) events) :
      Opened level ⟨1, some c, level.isSome⟩ events (.ok ())

/-- How a closing goes that finds the given units open: what it asks of the
source, and what goes wrong. -/
inductive Closes (verdict : Option Bool) (u : Units) : List Event → List Error → Prop where
  /-- There is nothing to be closed. -/
  | unopened (closed : u.openCalls = 0) : Closes verdict u [] [.connection .closeWithoutOpen]
  /-- There is a unit around it, which keeps the connection. -/
  | nested {n : Nat} (around : u.openCalls = n + 2) : Closes verdict u [] []
  /-- There is no connection to be given back. -/
  | vacant (last : u.openCalls = 1) (gone : u.connection = none) : Closes verdict u [] []
  /-- The connection goes back; if there are a transaction and a verdict,
  it ends so. -/
  | outermost {c : ConnectionId} {events : List Event} (last : u.openCalls = 1)
      (there : u.connection = some c)
      (asked : Closing c (if u.transactional then verdict else none) events) :
      Closes verdict u events (failures events)

/-- An opening asks for no statement. -/
theorem Opens.unstated {level : Option Isolation} {u u' : Units} {events : List Event}
    {result : Result Unit} (h : Opens level u u' events result) :
    ∀ event ∈ events, event.isStatement = false := by
  cases h with
  | joined => simp
  | refused _ asked => exact asked.unstated
  | entered _ asked => exact asked.unstated

/-- A closing asks for no statement. -/
theorem Closes.unstated {verdict : Option Bool} {u : Units} {events : List Event}
    {late : List Error} (h : Closes verdict u events late) :
    ∀ event ∈ events, event.isStatement = false := by
  cases h with
  | unopened => simp
  | nested => simp
  | vacant => simp
  | outermost _ _ asked => exact asked.unstated

/-- How a statement goes: it is sent on the connection that is there. -/
inductive Sends (event : ConnectionId → Result α → Event) :
    Option ConnectionId → List Event → Result α → Prop where
  | unsent : Sends event none [] (.error (.connection .notOpen))
  | sent (c : ConnectionId) (result : Result α) : Sends event (some c) [event c result] result

section Entries
variable (entry : Event → κ)

/-- An opening, with entries for what it asks. Nothing is said of units that
are open already. -/
def OpensUnit (level : Option Isolation) (u u' : Units) (added : List κ) (result : Result Unit) :
    Prop :=
  u = {} → ∃ events, added = events.map entry ∧ Opened level u' events result

/-- A closing, with entries for what it asks. -/
def ClosesUnit (verdict : Option Bool) (u _u' : Units) (added : List κ) (result : Result Unit) :
    Prop :=
  ∃ events late, added = events.map entry ∧ Closes verdict u events late ∧
    result.failure? = late.head?

/-- A statement, with an entry for it, which leaves the units as they
are. -/
def SendsOne (event : ConnectionId → Result α → Event) (u u' : Units) (added : List κ)
    (result : Result α) : Prop :=
  u' = u ∧ ∃ events, added = events.map entry ∧ Sends event u.connection events result

end Entries

namespace Tracks

variable (entry : Event → κ) (db : Database σ)

/-- An opening, whatever is open already. -/
theorem opens (level : Option Isolation) :
    Tracks View.alone
      (fun u u' added result => ∃ events, added = events.map entry ∧ Opens level u u' events result)
      ((db.noted entry).openUnit level) (db.openUnit level) := by
  intro s
  show ∃ added, (db.openUnit level).exec s.erased = _ ∧ _
  cases hc : s.units.connection with
  -- A unit is open: this one joins it, and nothing is asked.
  | some c =>
      have hjoin : s.erased.units.connection = some c := hc
      rw [(db.noted entry).openUnit_joins hc, db.openUnit_joins hjoin]
      exact ⟨[], rfl, (List.append_nil _).symm, [], rfl, .joined hc⟩
  | none =>
      have hnone : s.erased.units.connection = none := hc
      obtain ⟨events, hnoted, hasked, hfirst⟩ := Database.connect_notes entry db level s.world
      rcases hrun : (db.connect level).exec s.world.state with ⟨e | c, state⟩ <;>
        rw [hrun] at hnoted hasked hfirst
      · rw [Database.openUnit_refused hc hnoted, Database.openUnit_refused hnone hrun]
        exact ⟨events.map entry, rfl, rfl, events, rfl, .refused hc hasked hfirst.symm⟩
      · rw [Database.openUnit_connected hc hnoted, Database.openUnit_connected hnone hrun]
        exact ⟨events.map entry, rfl, rfl, events, rfl, .entered hc hasked⟩

/-- An opening from depth zero is one of an outermost unit. -/
theorem openUnit (level : Option Isolation) :
    Tracks View.alone (OpensUnit entry level) ((db.noted entry).openUnit level)
      (db.openUnit level) := by
  refine (opens entry db level).mono ?_
  rintro u u' added result ⟨events, hadded, hopens⟩ rfl
  refine ⟨events, hadded, ?_⟩
  -- At depth zero there is no connection to join.
  cases hopens with
  | joined there => cases there
  | refused _ asked first => exact .refused asked first
  | entered _ asked => exact .opened asked

/-- A closing asks for what its place demands: nothing if it is not open or
nested, and else that the connection goes back. -/
theorem closeUnit (verdict : Option Bool) :
    Tracks View.alone (ClosesUnit entry verdict) ((db.noted entry).closeUnit verdict)
      (db.closeUnit verdict) := by
  intro s
  show ∃ added, (db.closeUnit verdict).exec s.erased = _ ∧ _
  have hnil : s.world.log = s.world.log ++ ([] : List Event).map entry :=
    (List.append_nil _).symm
  -- By the number of openings that are not closed yet.
  match hcalls : s.units.openCalls with
  | 0 =>
      have hcalls' : s.erased.units.openCalls = 0 := hcalls
      rw [(db.noted entry).closeUnit_unopened hcalls, db.closeUnit_unopened hcalls']
      exact ⟨[], rfl, hnil, [], _, rfl, .unopened hcalls, rfl⟩
  | n + 2 =>
      have hcalls' : s.erased.units.openCalls = n + 2 := hcalls
      rw [(db.noted entry).closeUnit_nested hcalls, db.closeUnit_nested hcalls']
      exact ⟨[], rfl, hnil, [], _, rfl, .nested hcalls, rfl⟩
  | 1 =>
      have hcalls' : s.erased.units.openCalls = 1 := hcalls
      cases hc : s.units.connection with
      | none =>
          have hc' : s.erased.units.connection = none := hc
          rw [(db.noted entry).closeUnit_vacant hcalls hc, db.closeUnit_vacant hcalls' hc']
          exact ⟨[], rfl, hnil, [], _, rfl, .vacant hcalls hc, rfl⟩
      | some c =>
          have hc' : s.erased.units.connection = some c := hc
          obtain ⟨events, hnoted, hasked, hfirst⟩ :=
            Database.giveBack_notes entry db c s.units.transactional verdict s.world
          rw [(db.noted entry).closeUnit_giveBack hcalls hc, db.closeUnit_giveBack hcalls' hc',
            hnoted]
          exact ⟨events.map entry, rfl, rfl, events, _, rfl, .outermost hcalls hc hasked, hfirst⟩

/-- A call of the source on the open connection. -/
theorem onConnection {noted : ConnectionId → Work (Recorded κ σ) α}
    {call : ConnectionId → Work σ α} {event : ConnectionId → Result α → Event}
    (h : ∀ c, noted c = Recorded.noting (fun result => entry (event c result)) (call c)) :
    Tracks View.alone (SendsOne entry event)
      (Database.connection >>= fun c => Session.onWorld (noted c))
      (Database.connection >>= fun c => Session.onWorld (call c)) := by
  intro s
  show ∃ added, (Database.connection >>= _ : Work (Session σ) α).exec s.erased = _ ∧ _
  cases hc : s.units.connection with
  -- Without a connection there is no call.
  | none =>
      have hc' : s.erased.units.connection = none := hc
      rw [Work.exec_bind_error (Database.connection_unopened hc),
        Work.exec_bind_error (Database.connection_unopened hc')]
      refine ⟨[], rfl, (List.append_nil _).symm, rfl, [], rfl, ?_⟩
      show Sends event s.units.connection [] _
      rw [hc]
      exact .unsent
  | some c =>
      have hc' : s.erased.units.connection = some c := hc
      rw [Work.exec_bind_ok (Database.connection_exec hc),
        Work.exec_bind_ok (Database.connection_exec hc'), h]
      refine ⟨[entry (event c ((call c).exec s.world.state).1)], rfl, rfl, rfl,
        [event c ((call c).exec s.world.state).1], rfl, ?_⟩
      show Sends event s.units.connection _ _
      rw [hc]
      exact .sent c _

/-- A statement that writes. -/
theorem execute (statement : Statement) :
    Tracks View.alone (SendsOne entry fun c result => .execute c ⟨db.dialect, statement⟩ result)
      ((db.noted entry).execute statement) (db.execute statement) :=
  onConnection entry fun _ => rfl

/-- A statement that reads. -/
theorem fetch (statement : Statement) :
    Tracks View.alone (SendsOne entry fun c result => .fetch c ⟨db.dialect, statement⟩ result)
      ((db.noted entry).fetch statement) (db.fetch statement) :=
  onConnection entry fun _ => rfl

end Tracks

end DataAccess
