import DataAccess.Proofs.Database.Units
import Mathlib.Data.List.Forall2

/-!
# `DataAccess.Proofs.Database.UnitTree`: nested units of work

Units of work may contain units, statements and work of other kinds, and
what follows a piece of work may depend on how it ended: an error may be
passed on, replaced or forgotten. A `UnitTree` is such a program as data,
and `UnitTree.run` runs it.

Within a unit, everything that a tree asks of the source is statements on
the connection that is there, and the units are as before
(`UnitTree.run_within`, by induction on the tree). So a unit around a tree,
where no other unit is open, asks of the source just one `Block`, the one of
its `Frame`: the level of its transaction and how its own work ended
(`UnitTree.run_unit`).

`Balanced` says so of any number of outermost units, one after another.
-/

set_option autoImplicit false

namespace DataAccess

variable {σ : Type}

/-- A program of nested units of work, with a subject of its own. -/
inductive UnitTree : Type → Type → Type 1 where
  /-- Work on the subject only. -/
  | subject {τ α : Type} (w : Work τ α) : UnitTree τ α
  /-- Work, and what depends on how it ended. -/
  | bind {τ α β : Type} (t : UnitTree τ α) (next : Result α → UnitTree τ β) : UnitTree τ β
  /-- A unit, with a transaction if a level is given. The transaction is
  committed only if the work in the unit succeeds. -/
  | unit {τ α : Type} (level : Option Isolation) (t : UnitTree τ α) : UnitTree τ α
  /-- A statement that writes. -/
  | execute {τ : Type} (statement : Statement) : UnitTree τ Written
  /-- A statement that reads. -/
  | fetch {τ : Type} (statement : Statement) : UnitTree τ (List Row)
  /-- Work on another subject, which is given back with the outcome. -/
  | scope {τ ρ α : Type} (other : ρ) (t : UnitTree ρ α) : UnitTree τ (Result α × ρ)

/-- An outermost unit of work. -/
structure Frame where
  /-- The level of its transaction, if it has one. -/
  level : Option Isolation
  /-- Whether its own work succeeded, if it was opened. -/
  own : Option Bool
  deriving DecidableEq, Repr

/-- The outermost unit of the level; `own` is how the work in it ends. -/
def Frame.of {α : Type} (db : Database σ) (level : Option Isolation)
    (own : Session σ → Result α) (s : Session σ) : Frame :=
  match (db.openUnit level).exec s with
  | (.error _, _) => ⟨level, none⟩
  | (.ok _, session) => ⟨level, some (own session).isOk⟩

/-- It only matters whether the work in a unit succeeds. -/
theorem Frame.of_congr {α β : Type} {db : Database σ} {own : Session σ → Result α}
    {other : Session σ → Result β} (h : ∀ s, (own s).isOk = (other s).isOk)
    (level : Option Isolation) (s : Session σ) :
    Frame.of db level own s = Frame.of db level other s := by
  unfold Frame.of
  split
  · rfl
  · rw [h]

namespace UnitTree

/-- The outcome of work, as a result, and then what depends on it. -/
def continued {S α β : Type} (w : Work S α) (next : Result α → Work S β) : Work S β :=
  w.attempt >>= next

/-- Work on another subject, which is given back with the outcome. -/
def onOther {τ ρ α : Type} (other : ρ) (w : Work (ρ × Session σ) α) :
    Work (τ × Session σ) (Result α × ρ) :=
  Work.of fun s =>
    let (result, (other, session)) := w.exec (other, s.2)
    (.ok (result, other), (s.1, session))

/-- The opening of a unit, the work in it and the closing. -/
def inUnit {τ α : Type} (db : Database σ) (level : Option Isolation)
    (w : Work (τ × Session σ) α) : Work (τ × Session σ) α :=
  Work.enclosed (Database.onSession (db.openUnit level))
    (fun success => Database.onSession (db.closeUnit (level.map fun _ => success))) w

/-- The work of a tree. -/
def run (db : Database σ) {τ α : Type} : UnitTree τ α → Work (τ × Session σ) α
  | .subject w => Database.onSubject w
  | .bind t next => continued (run db t) fun result => run db (next result)
  | .unit level t => inUnit db level (run db t)
  | .execute statement => Database.onSession (db.execute statement)
  | .fetch statement => Database.onSession (db.fetch statement)
  | .scope other t => onOther other (run db t)

end UnitTree

/-- What an outermost unit asks of the source. -/
inductive Block : Frame → List Event → Prop where
  /-- There is no connection to be had. -/
  | refused (level : Option Isolation) (reason : Error) :
      Block ⟨level, none⟩ [.acquire (.error reason)]
  /-- The transaction does not begin. -/
  | failed (c : ConnectionId) (level : Isolation) (reason : Error) (released : Result Unit) :
      Block ⟨some level, none⟩
        [.acquire (.ok c), .begin c level (.error reason), .release c released]
  /-- Statements without a transaction. -/
  | plain (c : ConnectionId) (own : Bool) {statements : List Event}
      (stated : ∀ e ∈ statements, Stated c e) (released : Result Unit) :
      Block ⟨none, some own⟩ ([.acquire (.ok c)] ++ statements ++ [.release c released])
  /-- Statements in a transaction, which is committed if the own work of
  the unit succeeded, and undone if it did not. -/
  | ended (c : ConnectionId) (level : Isolation) (own : Bool) {statements : List Event}
      (stated : ∀ e ∈ statements, Stated c e) (result released : Result Unit) :
      Block ⟨some level, some own⟩
        ([.acquire (.ok c), .begin c level (.ok ())] ++ statements
          ++ [finishing c own result, .release c released])

/-- What happened between two sessions: one outermost unit after another was
opened and closed, each with its own block, and nothing else was asked of the
source. -/
structure Balanced (frames : List Frame) (s s' : Session (Recorded Event σ)) : Prop where
  /-- No unit is open, and no connection is held. -/
  closed : s'.units = {}
  blocks : ∃ blocks : List (List Event),
    s'.world.log = s.world.log ++ blocks.flatten ∧ List.Forall₂ Block frames blocks

namespace Balanced

variable {s s' s'' : Session (Recorded Event σ)}

/-- Nothing happened. -/
theorem nil (hs : s.units = {}) : Balanced [] s s :=
  ⟨hs, [], (List.append_nil _).symm, .nil⟩

/-- One thing happened after another. -/
theorem append {earlier later : List Frame} (h : Balanced earlier s s')
    (h' : Balanced later s' s'') : Balanced (earlier ++ later) s s'' := by
  obtain ⟨blocks, hlog, hblocks⟩ := h.blocks
  obtain ⟨blocks', hlog', hblocks'⟩ := h'.blocks
  refine ⟨h'.closed, blocks ++ blocks', ?_, List.rel_append hblocks hblocks'⟩
  rw [hlog', hlog, List.flatten_append, List.append_assoc]

/-- There was one unit. -/
theorem singleton {frame : Frame} {block : List Event} (closed : s'.units = {})
    (hlog : s'.world.log = s.world.log ++ block) (hblock : Block frame block) :
    Balanced [frame] s s' :=
  ⟨closed, [block], by rw [hlog, List.flatten_singleton], .cons hblock .nil⟩

end Balanced

namespace UnitTree

variable (db : Database σ) {τ α β : Type}

/-- The continuation gets the result, whether it is a failure or not. -/
theorem exec_continued {S : Type} (w : Work S α) (next : Result α → Work S β) (s : S) :
    (continued w next).exec s = (next (w.exec s).1).exec (w.exec s).2 := rfl

/-- Work on a session leaves what is beside it. -/
theorem exec_onSession (w : Work (Session σ) α) (s : τ × Session σ) :
    (Database.onSession w : Work (τ × Session σ) α).exec s
      = ((w.exec s.2).1, (s.1, (w.exec s.2).2)) := rfl

/-- A unit that is not opened is only the attempt to open it. -/
theorem exec_inUnit_error {db : Database σ} {level : Option Isolation}
    {w : Work (τ × Session σ) α} {s : τ × Session σ} {e : Error} {session : Session σ}
    (h : (db.openUnit level).exec s.2 = (.error e, session)) :
    (inUnit db level w).exec s = (.error e, (s.1, session)) := by
  apply Work.exec_enclosed_error
  rw [exec_onSession, h]

/-- A unit that is opened ends with its closing. -/
theorem exec_inUnit_ok {db : Database σ} {level : Option Isolation}
    {w : Work (τ × Session σ) α} {s : τ × Session σ} {session : Session σ}
    (h : (db.openUnit level).exec s.2 = (.ok (), session)) :
    ((inUnit db level w).exec s).2.2
      = ((db.closeUnit (level.map fun _ => (w.exec (s.1, session)).1.isOk)).exec
          (w.exec (s.1, session)).2.2).2 := by
  have hopen : (Database.onSession (db.openUnit level) : Work (τ × Session σ) Unit).exec s
      = (.ok (), (s.1, session)) := by rw [exec_onSession, h]
  rw [inUnit, Work.exec_enclosed_ok hopen]
  rfl

/-- In an open unit a tree sends statements on the connection that is
there, and does nothing else to the source or the units. -/
theorem run_within (t : UnitTree τ α) {s : τ × Session (Recorded Event σ)} {c : ConnectionId}
    (hc : s.2.units.connection = some c) (hopen : 0 < s.2.units.openCalls) :
    ((t.run db.recorded).exec s).2.2.units = s.2.units ∧
      ∃ events, ((t.run db.recorded).exec s).2.2.world.log = s.2.world.log ++ events ∧
        ∀ e ∈ events, Stated c e := by
  induction t with
  | subject w => exact ⟨rfl, [], (List.append_nil _).symm, by simp⟩
  | bind t next ih ihnext =>
      -- The first part left the unit open for the second one, however it ended.
      obtain ⟨hunits, events, hlog, hstated⟩ := ih hc hopen
      rw [← hunits] at hc hopen
      obtain ⟨hunits', later, hlater, hstated'⟩ := ihnext _ hc hopen
      rw [run, exec_continued]
      refine ⟨hunits'.trans hunits, events ++ later, ?_, ?_⟩
      · rw [hlater, hlog, List.append_assoc]
      · exact List.forall_mem_append.mpr ⟨hstated, hstated'⟩
  | unit level t ih =>
      have hjoin := db.recorded.openUnit_joins hc level
      obtain ⟨hunits, events, hlog, hstated⟩ :=
        @ih (s.1, ⟨s.2.units.join, s.2.world⟩) hc (Nat.succ_pos _)
      rw [run, exec_inUnit_ok hjoin]
      generalize (t.run db.recorded).exec (s.1, ⟨s.2.units.join, s.2.world⟩) = inner
        at hunits hlog ⊢
      -- The unit is nested, so that its closing only counts.
      obtain ⟨n, hn⟩ : ∃ n, s.2.units.openCalls = n + 1 :=
        ⟨_, (Nat.sub_one_add_one_eq_of_pos hopen).symm⟩
      have hcalls : inner.2.2.units.openCalls = n + 2 := by rw [hunits, Units.join, hn]
      rw [db.recorded.closeUnit_nested hcalls]
      refine ⟨?_, events, hlog, hstated⟩
      rw [hunits, Units.join, ← hn]
  | execute statement =>
      obtain ⟨result, world, hexec, hlog⟩ := db.execute_sent hc statement
      rw [run, exec_onSession, hexec]
      exact ⟨rfl, _, hlog, List.forall_mem_singleton.mpr (.execute _ _)⟩
  | fetch statement =>
      obtain ⟨result, world, hexec, hlog⟩ := db.fetch_sent hc statement
      rw [run, exec_onSession, hexec]
      exact ⟨rfl, _, hlog, List.forall_mem_singleton.mpr (.fetch _ _)⟩
  | scope other t ih => exact @ih (other, s.2) hc hopen

/-- An opening that failed is a block of its own. -/
theorem block_of_refused {level : Option Isolation} {e : Error} {events : List Event}
    (h : Opening level (.error e) events) : Block ⟨level, none⟩ events := by
  cases h with
  | refused e reason => exact .refused level reason
  | failed c isolation wanted e reason released =>
      subst wanted
      exact .failed c isolation reason released

/-- An opening, statements and a closing are a block. -/
theorem block_of_closed {level : Option Isolation} {c : ConnectionId} {own : Bool}
    {opening statements closing : List Event} (hopening : Opening level (.ok c) opening)
    (hstated : ∀ e ∈ statements, Stated c e)
    (hclosing : Closing c (level.map fun _ => own) closing) :
    Block ⟨level, some own⟩ (opening ++ statements ++ closing) := by
  -- The closing goes with the opening: both have a transaction, or neither has.
  cases hopening with
  | acquired _ plain =>
      subst plain
      cases hclosing with
      | plain released => exact .plain c own hstated released
  | begun _ isolation wanted =>
      subst wanted
      cases hclosing with
      | ended _ result released => exact .ended c isolation own hstated result released

/-- A unit that got a connection closes it again, and its statements are
between the two. -/
theorem run_opened (level : Option Isolation) (t : UnitTree τ α)
    {s : τ × Session (Recorded Event σ)} {c : ConnectionId} {opening : List Event}
    {world : Recorded Event σ}
    (hexec : (db.recorded.openUnit level).exec s.2
      = (.ok (), ⟨Units.enter c level.isSome {}, world⟩))
    (hlog : world.log = s.2.world.log ++ opening) (hopening : Opening level (.ok c) opening) :
    Balanced [Frame.of db.recorded level
        (fun session => ((t.run db.recorded).exec (s.1, session)).1) s.2]
      s.2 (((UnitTree.unit level t).run db.recorded).exec s).2.2 := by
  have hframe : Frame.of db.recorded level
      (fun session => ((t.run db.recorded).exec (s.1, session)).1) s.2
        = ⟨level, some ((t.run db.recorded).exec
            (s.1, ⟨Units.enter c level.isSome {}, world⟩)).1.isOk⟩ := by
    rw [Frame.of, hexec]
  obtain ⟨hunits, statements, hsent, hstated⟩ := run_within db t
    (s := (s.1, ⟨Units.enter c level.isSome {}, world⟩)) rfl (Nat.succ_pos _)
  rw [hframe, run, exec_inUnit_ok hexec]
  generalize (t.run db.recorded).exec (s.1, ⟨Units.enter c level.isSome {}, world⟩) = inner
    at hunits hsent ⊢
  -- The work left the unit as it was opened, so that its closing is the outermost one.
  obtain ⟨result, closing, world', hclose, hlater, hclosing⟩ :=
    db.closeUnit_outermost (by rw [hunits]; rfl) (by rw [hunits]; rfl)
      (level.map fun _ => inner.1.isOk)
  -- A connection without a transaction has no verdict to be closed with.
  have hverdict : Closing c (level.map fun _ => inner.1.isOk) closing := by
    rw [hunits] at hclosing
    cases level <;> exact hclosing
  have hasked : world'.log = s.2.world.log ++ (opening ++ statements ++ closing) := by
    rw [hlater, hsent, hlog, List.append_assoc, List.append_assoc, List.append_assoc]
  rw [hclose]
  exact .singleton rfl hasked (block_of_closed hopening hstated hverdict)

/-- Where no unit is open, a unit is an outermost one, and is closed however
it was opened and whatever the work in it did. -/
theorem run_unit (level : Option Isolation) (t : UnitTree τ α)
    {s : τ × Session (Recorded Event σ)} (hs : s.2.units = {}) :
    Balanced [Frame.of db.recorded level
        (fun session => ((t.run db.recorded).exec (s.1, session)).1) s.2]
      s.2 (((UnitTree.unit level t).run db.recorded).exec s).2.2 := by
  have hc : s.2.units.connection = none := by rw [hs]
  rcases db.openUnit_cases hc level with
    ⟨e, events, world, hexec, hlog, hasked⟩ | ⟨c, events, world, hexec, hlog, hasked⟩
  · -- The unit is not opened, and the work in it does not take place.
    have hframe : Frame.of db.recorded level
        (fun session => ((t.run db.recorded).exec (s.1, session)).1) s.2 = ⟨level, none⟩ := by
      rw [Frame.of, hexec]
    rw [hframe, run, exec_inUnit_error hexec]
    exact .singleton hs hlog (block_of_refused hasked)
  · rw [hs] at hexec
    exact run_opened db level t hexec hlog hasked

end UnitTree

end DataAccess
