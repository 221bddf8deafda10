import DataAccess.Proofs.Database.Units

/-!
# `DataAccess.Proofs.Database.Leases`: what becomes of a connection

A session may be opened and closed in any order, balanced or not, over a
source of which every call may fail. `Call` lists what can be called, and
`Call.moves` says in one place all that a call can do: to the units, and
to the record of the source.

A lease is the time from the acquisition of a connection on.
`Lease.record` finds the leases in a record of events, so that each event
counts for the latest lease of its connection: a source may hand out the
same number again after it was given back. `Settled` leases are over,
and the `Live` one is that of the connection the units hold.
`Accounted` is the invariant that ties the units to the leases; a call
keeps it (`Accounted.moves`), and `run_orderly` is what it means for the
connections after any calls.
-/

set_option autoImplicit false

namespace DataAccess

variable {σ : Type}

/-! ### Calls -/

/-- What can be called on a session. -/
inductive Call where
  | openConnection
  | openTransaction
  | openTransactionWith (level : Isolation)
  | closeConnection
  | closeTransaction (commit : Bool)
  | execute (statement : Statement)
  | fetch (statement : Statement)

namespace Call

/-- The work of a call. -/
def work (db : Database σ) : Call → Work (Session σ) Unit
  | .openConnection => db.openConnection
  | .openTransaction => db.openTransaction
  | .openTransactionWith level => db.openTransactionWith level
  | .closeConnection => db.closeConnection
  | .closeTransaction commit => db.closeTransaction commit
  | .execute statement => do let _ ← db.execute statement
  | .fetch statement => do let _ ← db.fetch statement

/-- The call opens a unit, with a transaction if there is a level. -/
def opening? (db : Database σ) : Call → Option (Option Isolation)
  | .openConnection => some none
  | .openTransaction => some (some db.settings.isolation)
  | .openTransactionWith level => some (some level)
  | _ => none

/-- The call closes a unit, with a verdict on the transaction if there
is one. -/
def closing? : Call → Option (Option Bool)
  | .closeConnection => some none
  | .closeTransaction commit => some (some commit)
  | _ => none

/-- The session after many calls, whether they fail or not. -/
def run (db : Database σ) (calls : List Call) (s : Session σ) : Session σ :=
  calls.foldl (fun s call => ((call.work db).exec s).2) s

end Call

/-- What a call can do: whether it succeeds, the units after it, and what
it asks of the source. -/
inductive Moves (db : Database σ) (u : Units) (call : Call) : Bool → Units → List Event → Prop
    where
  /-- An opening joins a connection. -/
  | joined {level : Option Isolation} {c : ConnectionId} (opens : call.opening? db = some level)
      (held : u.connection = some c) : Moves db u call true u.join []
  /-- An opening gets a connection. -/
  | entered {level : Option Isolation} {c : ConnectionId} {events : List Event}
      (opens : call.opening? db = some level) (vacant : u.connection = none)
      (asked : Opening level (.ok c) events) :
      Moves db u call true (u.enter c level.isSome) events
  /-- An opening fails. -/
  | refused {level : Option Isolation} {e : Error} {events : List Event}
      (opens : call.opening? db = some level) (vacant : u.connection = none)
      (asked : Opening level (.error e) events) : Moves db u call false u events
  /-- A closing finds nothing open. -/
  | unopened {verdict : Option Bool} (closes : call.closing? = some verdict)
      (none_open : u.openCalls = 0) : Moves db u call false u []
  /-- A closing of a nested unit. -/
  | left {verdict : Option Bool} {n : Nat} (closes : call.closing? = some verdict)
      (nested : u.openCalls = n + 2) : Moves db u call true { u with openCalls := n + 1 } []
  /-- A closing of the outermost unit. -/
  | closed {verdict : Option Bool} {c : ConnectionId} {events : List Event} (success : Bool)
      (closes : call.closing? = some verdict) (outermost : u.openCalls = 1)
      (held : u.connection = some c)
      (asked : Closing c (if u.transactional then verdict else none) events) :
      Moves db u call success {} events
  /-- A closing of an outermost unit that has no connection. -/
  | vacated {verdict : Option Bool} (closes : call.closing? = some verdict)
      (outermost : u.openCalls = 1) (vacant : u.connection = none) : Moves db u call true {} []
  /-- A statement is sent. -/
  | stated {c : ConnectionId} {e : Event} (success : Bool) (held : u.connection = some c)
      (sent : Stated c e) : Moves db u call success u [e]
  /-- A statement finds nothing open. -/
  | unsent (vacant : u.connection = none) : Moves db u call false u []

namespace Call

variable (db : Database σ)

/-- An opening joins the unit that is open, or asks for a connection, and
is refused or enters a unit. -/
theorem openUnit_moves {call : Call} (level : Option Isolation)
    (hopens : call.opening? db = some level) (s : Session (Recorded Event σ)) :
    ∃ result events,
      ((db.recorded.openUnit level).exec s).1 = result ∧
      ((db.recorded.openUnit level).exec s).2.world.log = s.world.log ++ events ∧
      Moves db s.units call result.isOk ((db.recorded.openUnit level).exec s).2.units events := by
  cases hc : s.units.connection with
  | some c =>
      rw [db.recorded.openUnit_joins hc level]
      exact ⟨_, [], rfl, (List.append_nil _).symm, .joined hopens hc⟩
  | none =>
      rcases db.openUnit_cases hc level with
        ⟨e, events, world, hexec, hlog, hasked⟩ | ⟨c, events, world, hexec, hlog, hasked⟩
      · rw [hexec]
        exact ⟨_, events, rfl, hlog, .refused hopens hc hasked⟩
      · rw [hexec]
        exact ⟨_, events, rfl, hlog, .entered hopens hc hasked⟩

/-- A closing leaves a nested unit, gives the connection back, or is
refused. -/
theorem closeUnit_moves {call : Call} (verdict : Option Bool)
    (hcloses : call.closing? = some verdict) (s : Session (Recorded Event σ)) :
    ∃ result events,
      ((db.recorded.closeUnit verdict).exec s).1 = result ∧
      ((db.recorded.closeUnit verdict).exec s).2.world.log = s.world.log ++ events ∧
      Moves db s.units call result.isOk
        ((db.recorded.closeUnit verdict).exec s).2.units events := by
  -- The count says whether the closing is too much, the outermost one or nested.
  match hcalls : s.units.openCalls with
  | 0 =>
      rw [db.recorded.closeUnit_unopened hcalls verdict]
      exact ⟨_, [], rfl, (List.append_nil _).symm, .unopened hcloses hcalls⟩
  | 1 =>
      cases hc : s.units.connection with
      | some c =>
          obtain ⟨result, events, world, hexec, hlog, hasked⟩ :=
            db.closeUnit_outermost hcalls hc verdict
          rw [hexec]
          exact ⟨_, events, rfl, hlog, .closed _ hcloses hcalls hc hasked⟩
      | none =>
          rw [db.recorded.closeUnit_vacant hcalls hc verdict]
          exact ⟨_, [], rfl, (List.append_nil _).symm, .vacated hcloses hcalls hc⟩
  | n + 2 =>
      rw [db.recorded.closeUnit_nested hcalls verdict]
      exact ⟨_, [], rfl, (List.append_nil _).symm, .left hcloses hcalls⟩

/-- A call does one of the things that `Moves` lists. -/
theorem moves (call : Call) (s : Session (Recorded Event σ)) :
    ∃ result events,
      ((call.work db.recorded).exec s).1 = result ∧
      ((call.work db.recorded).exec s).2.world.log = s.world.log ++ events ∧
      Moves db s.units call result.isOk ((call.work db.recorded).exec s).2.units events := by
  cases call with
  | openConnection => exact openUnit_moves db none rfl s
  | openTransaction => exact openUnit_moves db (some db.settings.isolation) rfl s
  | openTransactionWith level => exact openUnit_moves db (some level) rfl s
  | closeConnection => exact closeUnit_moves db none rfl s
  | closeTransaction commit => exact closeUnit_moves db (some commit) rfl s
  -- A statement needs a connection, and is noted with its result.
  | execute statement =>
      cases hc : s.units.connection with
      | none =>
          rw [work, Work.exec_bind_error (db.recorded.execute_unsent hc statement)]
          exact ⟨_, [], rfl, (List.append_nil _).symm, .unsent hc⟩
      | some c =>
          obtain ⟨result, world, hexec, hlog⟩ := db.execute_sent hc statement
          rw [work, Work.exec_bind, hexec]
          cases result with
          | error e => exact ⟨_, _, rfl, hlog, .stated _ hc (.execute _ _)⟩
          | ok written => exact ⟨_, _, rfl, hlog, .stated _ hc (.execute _ _)⟩
  | fetch statement =>
      cases hc : s.units.connection with
      | none =>
          rw [work, Work.exec_bind_error (db.recorded.fetch_unsent hc statement)]
          exact ⟨_, [], rfl, (List.append_nil _).symm, .unsent hc⟩
      | some c =>
          obtain ⟨result, world, hexec, hlog⟩ := db.fetch_sent hc statement
          rw [work, Work.exec_bind, hexec]
          cases result with
          | error e => exact ⟨_, _, rfl, hlog, .stated _ hc (.fetch _ _)⟩
          | ok rows => exact ⟨_, _, rfl, hlog, .stated _ hc (.fetch _ _)⟩

end Call

/-! ### Leases -/

/-- The connection that an event is about, once it was acquired. -/
def Event.subject? : Event → Option ConnectionId
  | .begin c _ _ => some c
  | .commit c _ => some c
  | .rollback c _ => some c
  | .release c _ => some c
  | .execute c _ _ => some c
  | .fetch c _ _ => some c
  | .acquire _ => none
  | .close => none

/-- A transaction was to end. -/
def Event.isFinish : Event → Bool
  | .commit _ _ => true
  | .rollback _ _ => true
  | _ => false

/-- A connection was given back. -/
def Event.isRelease : Event → Bool
  | .release _ _ => true
  | _ => false

/-- The time from the acquisition of a connection on. -/
structure Lease where
  id : ConnectionId
  /-- What was asked of it, the oldest first. -/
  events : List Event
  /-- Whether it was acquired at all. -/
  acquired : Bool

namespace Lease

/-- Adds an event to the latest lease of its connection. -/
def charge (c : ConnectionId) (e : Event) : List Lease → List Lease
  | [] => [⟨c, [e], false⟩]
  | l :: ls =>
    if l.id = c then { l with events := l.events ++ [e] } :: ls else l :: charge c e ls

/-- The leases after one more event. -/
def note (ls : List Lease) (e : Event) : List Lease :=
  match e with
  | .acquire (.ok c) => ⟨c, [], true⟩ :: ls
  | e =>
    match e.subject? with
    | some c => charge c e ls
    | none => ls

/-- The leases in a record of events, the latest first. -/
def record (log : List Event) : List Lease :=
  log.foldl note []

/-- How often the connection was given back. -/
def releases (l : Lease) : Nat :=
  l.events.countP Event.isRelease

/-- A record goes on where it was. -/
theorem record_append (log events : List Event) :
    record (log ++ events) = events.foldl note (record log) :=
  List.foldl_append

/-- What is asked of the latest connection counts for its lease. -/
theorem foldl_note_head (l : Lease) {ls : List Lease} {events : List Event}
    (h : ∀ e ∈ events, e.subject? = some l.id) :
    events.foldl note (l :: ls) = { l with events := l.events ++ events } :: ls := by
  induction events generalizing l with
  | nil => simp
  | cons e events ih =>
      -- One event is charged to the head, and the others to what it has become.
      have he : note (l :: ls) e = { l with events := l.events ++ [e] } :: ls := by
        have hsubject := h e (by simp)
        cases e <;> simp_all [note, Event.subject?, charge]
      rw [List.foldl_cons, he, ih { l with events := l.events ++ [e] } fun f hf =>
        h f (by simp [hf])]
      simp

/-- The transaction of a lease, if one began. -/
inductive Begun (c : ConnectionId) : Bool → List Event → Prop where
  | none : Begun c false []
  | some (level : Isolation) : Begun c true [.begin c level (.ok ())]

/-- The connection is in use: at most a transaction began on it, and
statements were sent. -/
structure Live (l : Lease) (transactional : Bool) : Prop where
  acquired : l.acquired = true
  events : ∃ begun statements, l.events = begun ++ statements ∧
    Begun l.id transactional begun ∧ ∀ e ∈ statements, Stated l.id e

/-- The connection was given back, in one of the ways there are. -/
inductive Settled : Lease → Prop where
  /-- No transaction began. -/
  | failed (c : ConnectionId) (level : Isolation) (reason : Error) (released : Result Unit) :
      Settled ⟨c, [.begin c level (.error reason), .release c released], true⟩
  /-- It was used and closed. -/
  | closed {l : Lease} {transactional : Bool} (live : l.Live transactional)
      (verdict : Option Bool) {events : List Event}
      (asked : Closing l.id (if transactional then verdict else none) events) :
      Settled { l with events := l.events ++ events }

/-- The units and the leases agree: if a connection is held, the latest
lease is its, and all others are over. -/
inductive Accounted : Units → List Lease → Prop where
  | vacant {ls : List Lease} (settled : ∀ l ∈ ls, l.Settled) : Accounted {} ls
  | held {l : Lease} {ls : List Lease} {transactional : Bool} (n : Nat)
      (live : l.Live transactional) (settled : ∀ k ∈ ls, k.Settled) :
      Accounted ⟨n + 1, some l.id, transactional⟩ (l :: ls)

/-- A statement is added to the lease that is in use. -/
theorem Live.stated {l : Lease} {transactional : Bool} (h : l.Live transactional) {e : Event}
    (he : Stated l.id e) : Live { l with events := l.events ++ [e] } transactional where
  acquired := h.acquired
  events := by
    obtain ⟨begun, statements, hevents, hbegun, hstated⟩ := h.events
    refine ⟨begun, statements ++ [e], by simp [hevents], hbegun, ?_⟩
    exact List.forall_mem_append.mpr ⟨hstated, List.forall_mem_singleton.mpr he⟩

/-- A statement is about its connection. -/
theorem subject?_of_stated {c : ConnectionId} {e : Event} (h : Stated c e) :
    e.subject? = some c := by
  cases h <;> rfl

/-- All that is asked when a connection is given back is about this
connection. -/
theorem subject?_of_closing {c : ConnectionId} {verdict : Option Bool} {events : List Event}
    (h : Closing c verdict events) : ∀ e ∈ events, e.subject? = some c := by
  cases h with
  | plain released => simp [Event.subject?]
  | ended commit result released => cases commit <;> simp [finishing, Event.subject?]

/-- One call keeps the units and the leases in agreement. -/
theorem Accounted.moves {db : Database σ} {u u' : Units} {call : Call} {success : Bool}
    {log events : List Event} (h : Accounted u (record log))
    (hmoves : Moves db u call success u' events) : Accounted u' (record (log ++ events)) := by
  rw [record_append]
  generalize record log = ls at h ⊢
  cases hmoves with
  | joined opens held =>
      cases h with
      | vacant settled => cases held
      | held n live settled => exact .held (n + 1) live settled
  -- A new lease is live at once, if its transaction began or none was wanted.
  | @entered level c _ opens vacant asked =>
      cases h with
      | held n live settled => cases vacant
      | vacant settled =>
          cases asked with
          | acquired _ plain =>
              subst plain
              have hlive : Live ⟨c, [], true⟩ false := ⟨rfl, [], [], rfl, .none, by simp⟩
              exact .held 0 hlive settled
          | begun _ isolation wanted =>
              subst wanted
              have hnotes : [Event.acquire (.ok c), .begin c isolation (.ok ())].foldl note ls
                  = ⟨c, [.begin c isolation (.ok ())], true⟩ :: ls :=
                foldl_note_head ⟨c, [], true⟩ (by simp [Event.subject?])
              have hlive : Live ⟨c, [.begin c isolation (.ok ())], true⟩ true :=
                ⟨rfl, [.begin c isolation (.ok ())], [], rfl, .some isolation, by simp⟩
              rw [hnotes]
              exact .held 0 hlive settled
  -- An opening that fails settles what it acquired, if it got so far.
  | refused opens vacant asked =>
      cases h with
      | held n live settled => cases vacant
      | vacant settled =>
          cases asked with
          | refused e reason => exact .vacant settled
          | failed c isolation wanted e reason released =>
              have hnotes : [Event.acquire (.ok c), .begin c isolation (.error reason),
                  .release c released].foldl note ls
                  = ⟨c, [.begin c isolation (.error reason), .release c released], true⟩ :: ls :=
                foldl_note_head ⟨c, [], true⟩ (by simp [Event.subject?])
              rw [hnotes]
              refine .vacant (List.forall_mem_cons.mpr ⟨?_, settled⟩)
              exact .failed c isolation reason released
  | unopened closes none_open => exact h
  | left closes nested =>
      cases h with
      | vacant settled => cases nested
      | held n live settled =>
          cases nested
          exact .held _ live settled
  -- The live lease is settled by the closing.
  | closed success closes outermost held asked =>
      cases h with
      | vacant settled => cases held
      | held n live settled =>
          cases held
          rw [foldl_note_head _ (subject?_of_closing asked)]
          exact .vacant (List.forall_mem_cons.mpr ⟨.closed live _ asked, settled⟩)
  | vacated closes outermost vacant =>
      cases h with
      | vacant settled => exact .vacant settled
      | held n live settled => cases vacant
  | stated success held sent =>
      cases h with
      | vacant settled => cases held
      | held n live settled =>
          cases held
          rw [foldl_note_head _ (by simpa using subject?_of_stated sent)]
          exact .held n (live.stated sent) settled
  | unsent vacant => exact h

/-! ### What a lease looks like -/

/-- The connection was acquired, and used in order: at most one
transaction ended on it, none that had not begun, and it was not used
after it was given back. -/
structure Orderly (l : Lease) : Prop where
  acquired : l.acquired = true
  once : l.events.countP Event.isFinish ≤ 1
  begun : ∀ before e after, l.events = before ++ e :: after → e.isFinish →
    ∃ level, .begin l.id level (.ok ()) ∈ before
  last : ∀ before e after, l.events = before ++ e :: after → e.isRelease → after = []

/-- Statements end no transaction and release nothing. -/
theorem isFinish_of_stated {c : ConnectionId} {e : Event} (h : Stated c e) :
    e.isFinish = false ∧ e.isRelease = false := by
  cases h <;> exact ⟨rfl, rfl⟩

/-- The beginning of a transaction ends none and releases nothing. -/
theorem isFinish_of_begun {c : ConnectionId} {transactional : Bool} {events : List Event}
    (h : Begun c transactional events) :
    ∀ e ∈ events, e.isFinish = false ∧ e.isRelease = false := by
  cases h <;> simp [Event.isFinish, Event.isRelease]

/-- So no lease in use has an end or a release among its events. -/
theorem Live.unfinished {l : Lease} {transactional : Bool} (h : l.Live transactional) :
    ∀ e ∈ l.events, e.isFinish = false ∧ e.isRelease = false := by
  obtain ⟨begun, statements, hevents, hbegun, hstated⟩ := h.events
  intro e he
  rw [hevents] at he
  rcases List.mem_append.mp he with he | he
  · exact isFinish_of_begun hbegun e he
  · exact isFinish_of_stated (hstated e he)

/-- A lease with a transaction has begun it. -/
theorem Live.begun {l : Lease} (h : l.Live true) :
    ∃ level, .begin l.id level (.ok ()) ∈ l.events := by
  obtain ⟨begun, statements, hevents, hbegun, -⟩ := h.events
  cases hbegun with
  | some level => exact ⟨level, by rw [hevents]; simp⟩

/-- A lease in use is in order, and not released yet. -/
theorem Live.orderly {l : Lease} {transactional : Bool} (h : l.Live transactional) :
    l.Orderly ∧ l.releases = 0 := by
  have hfinish : ∀ before e after, l.events = before ++ e :: after →
      e.isFinish = false ∧ e.isRelease = false :=
    fun before e after heq => h.unfinished e (by simp [heq])
  refine ⟨⟨h.acquired, ?_, fun before e after heq he => ?_, fun before e after heq he => ?_⟩, ?_⟩
  · rw [List.countP_eq_zero.mpr fun e he => by simp [(h.unfinished e he).1]]
    exact Nat.zero_le 1
  · rw [(hfinish before e after heq).1] at he
    cases he
  · rw [(hfinish before e after heq).2] at he
    cases he
  · exact List.countP_eq_zero.mpr fun e he => by simp [(h.unfinished e he).2]

/-- What closes a connection: it is given back last, and a transaction
ends only if the verdict says how. -/
theorem closing_events {c : ConnectionId} {verdict : Option Bool} {events : List Event}
    (h : Closing c verdict events) :
    events.Pairwise (fun e _ => e.isRelease = false) ∧ events.countP Event.isFinish ≤ 1 ∧
      events.countP Event.isRelease = 1 ∧
      (verdict = none → ∀ e ∈ events, e.isFinish = false) := by
  cases h with
  | plain released => simp [Event.isFinish, Event.isRelease]
  | ended commit result released =>
      cases commit <;> simp [finishing, Event.isFinish, Event.isRelease, List.countP_cons]

/-- If nothing follows a release, it is the last event. -/
theorem last_of_pairwise {events before after : List Event} {e : Event}
    (h : events.Pairwise fun e _ => e.isRelease = false) (heq : events = before ++ e :: after)
    (he : e.isRelease) : after = [] := by
  -- An event that something follows is no release.
  rw [heq] at h
  have hafter := (List.pairwise_cons.mp (List.pairwise_append.mp h).2.1).1
  cases after with
  | nil => rfl
  | cons f after =>
      rw [hafter f (by simp)] at he
      cases he

/-- What stands in the second of two lists has all of the first one
before it. -/
theorem mem_of_append_eq {events later before after : List Event} {e : Event}
    (h : events ++ later = before ++ e :: after) :
    e ∈ events ∨ e ∈ later ∧ ∃ rest, before = events ++ rest := by
  rcases List.append_eq_append_iff.mp h with ⟨rest, hbefore, hlater⟩ | ⟨rest, hevents, hrest⟩
  · exact Or.inr ⟨by rw [hlater]; simp, rest, hbefore⟩
  -- The event is the first one of the second list, or stands in the first one.
  · cases rest with
    | nil =>
        rw [List.nil_append] at hrest
        exact Or.inr ⟨by rw [← hrest]; simp, [], by simpa using hevents.symm⟩
    | cons f rest =>
        obtain ⟨rfl, -⟩ := List.cons.inj hrest
        exact Or.inl (by rw [hevents]; simp)

/-- A connection that was given back was used in order, and was given
back once. -/
theorem Settled.orderly {l : Lease} (h : l.Settled) : l.Orderly ∧ l.releases = 1 := by
  cases h with
  -- A transaction that could not begin, and the release right after it.
  | failed c level reason released =>
      have hevents : ∀ e ∈ [Event.begin c level (.error reason), .release c released],
          e.isFinish = false := by simp [Event.isFinish]
      refine ⟨⟨rfl, ?_, fun before e after heq he => ?_, fun before e after heq he => ?_⟩, ?_⟩
      · simp [Event.isFinish]
      · have hmem : e ∈ before ++ e :: after := by simp
        rw [← heq] at hmem
        rw [hevents e hmem] at he
        cases he
      · exact last_of_pairwise (by simp [Event.isRelease]) heq he
      · simp [releases, Event.isRelease]
  | @closed l transactional live verdict closing asked =>
      obtain ⟨hlast, honce, hreleased, hplain⟩ := closing_events asked
      have hquiet : l.events.countP Event.isFinish = 0 ∧ l.events.countP Event.isRelease = 0 :=
        ⟨List.countP_eq_zero.mpr fun e he => by simp [(live.unfinished e he).1],
          List.countP_eq_zero.mpr fun e he => by simp [(live.unfinished e he).2]⟩
      refine ⟨⟨live.acquired, ?_, fun before e after heq he => ?_, fun before e after heq he => ?_⟩,
        ?_⟩
      · rw [List.countP_append, hquiet.1, Nat.zero_add]
        exact honce
      · -- The end of the transaction is among the events of the closing.
        rcases mem_of_append_eq heq with hlive | ⟨hclosing, rest, hbefore⟩
        · rw [(live.unfinished e hlive).1] at he
          cases he
        · cases transactional with
          | false =>
              rw [hplain rfl e hclosing] at he
              cases he
          | true =>
              obtain ⟨level, hlevel⟩ := live.begun
              exact ⟨level, by rw [hbefore]; exact List.mem_append_left rest hlevel⟩
      · refine last_of_pairwise (List.pairwise_append.mpr ⟨?_, hlast, ?_⟩) heq he
        · exact List.pairwise_of_forall_mem_list fun e he f hf => (live.unfinished e he).2
        · exact fun e he f hf => (live.unfinished e he).2
      · rw [releases, List.countP_append, hquiet.2, Nat.zero_add]
        exact hreleased

end Lease

/-! ### Any calls -/

/-- The units of a session and the connections of its record. -/
structure Session.InOrder (s : Session (Recorded Event σ)) : Prop where
  /-- A connection is held just as long as a unit is open. -/
  held_iff : s.units.connection.isSome ↔ 0 < s.units.openCalls
  /-- The units are transactional only if a transaction began. -/
  begun : s.units.transactional → ∃ l ls level, Lease.record s.world.log = l :: ls ∧
    s.units.connection = some l.id ∧ .begin l.id level (.ok ()) ∈ l.events
  /-- Every connection was used in order. -/
  orderly : ∀ l ∈ Lease.record s.world.log, l.Orderly
  /-- The connection that is held was acquired last and not given back,
  and all others were given back once. -/
  held : ∀ c, s.units.connection = some c → ∃ l ls, Lease.record s.world.log = l :: ls ∧
    l.id = c ∧ l.releases = 0 ∧ ∀ k ∈ ls, k.releases = 1
  /-- If none is held, all were given back once. -/
  vacant : s.units.connection = none → ∀ l ∈ Lease.record s.world.log, l.releases = 1

/-- What a call on the session keeps to. -/
structure Call.Lawful (db : Database σ) (s : Session (Recorded Event σ)) (call : Call) :
    Prop where
  /-- Only the closing of the outermost unit with that verdict commits. -/
  commits : ∃ events,
    ((call.work db.recorded).exec s).2.world.log = s.world.log ++ events ∧
    ∀ c result, .commit c result ∈ events → call = .closeTransaction true ∧
      s.units.openCalls = 1 ∧ ((call.work db.recorded).exec s).2.units.openCalls = 0
  /-- An opening that fails changes no units. -/
  failedOpening : (call.opening? db).isSome →
    ((call.work db.recorded).exec s).1.isOk = false →
      ((call.work db.recorded).exec s).2.units = s.units
  /-- A closing without an open unit fails and changes nothing. -/
  failedClosing : call.closing?.isSome → s.units.openCalls = 0 →
    (call.work db.recorded).exec s = (.error (.connection .closeWithoutOpen), s)

/-- What is known of the leases gives the order of their events. -/
theorem Lease.Accounted.inOrder {s : Session (Recorded Event σ)}
    (h : Lease.Accounted s.units (Lease.record s.world.log)) : s.InOrder := by
  obtain ⟨units, world⟩ := s
  generalize hrecord : Lease.record world.log = ls at h
  have hleases : Lease.record (Session.mk units world).world.log = ls := hrecord
  cases h with
  -- No connection is held: every lease is settled.
  | vacant settled =>
      constructor
      · simp
      · intro h
        cases h
      · exact fun l hl => (settled l (hleases ▸ hl)).orderly.1
      · intro c hc
        cases hc
      · exact fun _ l hl => (settled l (hleases ▸ hl)).orderly.2
  -- The latest lease is the one in use, and all others are settled.
  | @held l ls transactional n live settled =>
      constructor
      · simp
      · intro (h : transactional = true)
        subst h
        obtain ⟨level, hlevel⟩ := live.begun
        exact ⟨l, ls, level, hleases, rfl, hlevel⟩
      · intro k hk
        rw [hleases] at hk
        rcases List.mem_cons.mp hk with rfl | hk
        · exact live.orderly.1
        · exact (settled k hk).orderly.1
      · intro c hc
        exact ⟨l, ls, hleases, Option.some.inj hc, live.orderly.2, fun k hk =>
          (settled k hk).orderly.2⟩
      · intro hc
        cases hc

namespace Call

/-- A call that commits is the closing of the outermost unit, with that
verdict. -/
theorem commit_of_moves {db : Database σ} {u u' : Units} {call : Call} {success : Bool}
    {events : List Event} (h : Moves db u call success u' events) {c : ConnectionId}
    {result : Result Unit} (hmem : .commit c result ∈ events) :
    call = .closeTransaction true ∧ u.openCalls = 1 ∧ u'.openCalls = 0 := by
  cases h with
  | entered opens vacant asked => cases asked <;> simp at hmem
  | refused opens vacant asked => cases asked <;> simp at hmem
  | stated success held sent => cases sent <;> simp at hmem
  | @closed verdict _ _ success closes outermost held asked =>
      refine ⟨?_, outermost, rfl⟩
      -- A commit is the end of a transaction by a verdict that says so.
      have hverdict : verdict = some true := by
        generalize hended : (if u.transactional then verdict else none) = ended at asked
        cases asked with
        | plain released => simp at hmem
        | ended commit result released =>
            cases commit <;> simp [finishing] at hmem
            split at hended
            · exact hended
            · cases hended
      rw [hverdict] at closes
      cases call <;> simp_all [closing?]
  | joined _ _ | unopened _ _ | left _ _ | vacated _ _ _ | unsent _ => cases hmem

/-- A call that opens a unit and fails changes no units. -/
theorem units_of_moves {db : Database σ} {u u' : Units} {call : Call} {events : List Event}
    (h : Moves db u call false u' events) (hopens : (call.opening? db).isSome) : u' = u := by
  cases h with
  | refused _ _ _ | unopened _ _ | stated _ _ _ | unsent _ => rfl
  | closed success closes outermost held asked =>
      cases call <;> simp_all [opening?, closing?]

/-- Any call on any session is lawful. -/
theorem lawful (db : Database σ) (s : Session (Recorded Event σ)) (call : Call) :
    call.Lawful db s := by
  obtain ⟨result, events, hresult, hlog, hmoves⟩ := moves db call s
  constructor
  -- A commit is only asked for by the closing of the outermost unit.
  · exact ⟨events, hlog, fun c committed hmem => commit_of_moves hmoves hmem⟩
  · -- The failure is that of the opening, so that no unit was entered.
    intro hopens hfailed
    rw [← hresult, hfailed] at hmoves
    exact units_of_moves hmoves hopens
  · intro hcloses hcalls
    cases call with
    | closeConnection => exact db.recorded.closeUnit_unopened hcalls none
    | closeTransaction commit => exact db.recorded.closeUnit_unopened hcalls (some commit)
    | openConnection | openTransaction | openTransactionWith _ | execute _ | fetch _ =>
        cases hcloses

/-- By induction on the calls. -/
theorem run_accounted (db : Database σ) (calls : List Call) {s : Session (Recorded Event σ)}
    (h : Lease.Accounted s.units (Lease.record s.world.log)) :
    Lease.Accounted (run db.recorded calls s).units
      (Lease.record (run db.recorded calls s).world.log) := by
  induction calls generalizing s with
  | nil => exact h
  | cons call calls ih =>
      apply ih
      obtain ⟨result, events, -, hlog, hmoves⟩ := moves db call s
      rw [hlog]
      exact h.moves hmoves

/-- After any calls, in any order and however the source answered them,
the connections are in order, and the next call is lawful. -/
theorem run_orderly (db : Database σ) (world : σ) (calls : List Call) :
    (run db.recorded calls (Session.start ⟨[], world⟩)).InOrder ∧
      ∀ call : Call, call.Lawful db (run db.recorded calls (Session.start ⟨[], world⟩)) := by
  have hstart : Lease.Accounted ({} : Units) (Lease.record []) := .vacant (by simp [Lease.record])
  exact ⟨(run_accounted db calls hstart).inOrder, lawful db _⟩

end Call

end DataAccess
