import DataAccess.Proofs.Database.Inside

/-!
# `DataAccess.Proofs.Database.Persistence`: what is kept of a transaction

`Persists events` says that rows were written and kept: a statement that
wrote some was followed by a commit that succeeded. It can be found out
(`keptIn`).

`Settles Q late w` says of work that begins where no unit is open that rows
are kept only if it succeeds, with a result that has `Q`. There is one error
that comes too late, by its nature: the transaction was committed, and then
the connection was not taken back (`Unreleased`). Other errors that come
when all is over have to be `late`.

A transaction settles what the work in it wrote, if that stays inside
(`Settles.transaction`), however the source answers.
-/

set_option autoImplicit false

namespace DataAccess

variable {σ τ α β : Type}

/-! ### What is kept -/

/-- The connection on which a statement wrote rows. -/
def Event.wroteOn? : Event → Option ConnectionId
  | .execute c _ (.ok written) => if written.rows = 0 then none else some c
  | _ => none

/-- A statement that wrote rows. -/
def Event.Wrote (e : Event) : Prop :=
  e.wroteOn?.isSome

/-- Rows that were written are kept: there was a commit on their connection
later on, and it succeeded. -/
def Persists (events : List Event) : Prop :=
  ∃ e c earlier between later,
    events = earlier ++ e :: between ++ .commit c (.ok ()) :: later ∧ e.wroteOn? = some c

/-- The error is that of a connection that was not taken back, after the
transaction on it was committed. -/
def Unreleased (e : Error) (events : List Event) : Prop :=
  ∃ c reason earlier, e = .ofStep .release reason ∧
    events = earlier ++ [.commit c (.ok ()), .release c (.error reason)]

namespace Persists

/-- What persists was written. -/
theorem exists_wrote {events : List Event} (h : Persists events) : ∃ e ∈ events, e.Wrote := by
  obtain ⟨e, c, earlier, between, later, rfl, hwrote⟩ := h
  exact ⟨e, by simp, by rw [Event.Wrote, hwrote]; rfl⟩

/-- What persists was committed in some transaction. -/
theorem exists_commit {events : List Event} (h : Persists events) :
    ∃ c, .commit c (.ok ()) ∈ events := by
  obtain ⟨e, c, earlier, between, later, rfl, -⟩ := h
  exact ⟨c, by simp⟩

/-- The first event wrote what is kept, or a later one did. -/
theorem cons_iff {e : Event} {events : List Event} :
    Persists (e :: events) ↔
      (∃ c, e.wroteOn? = some c ∧ .commit c (.ok ()) ∈ events) ∨ Persists events := by
  constructor
  · rintro ⟨e', c, earlier, between, later, h, hwrote⟩
    -- What was written is the first event, or stands after it.
    cases earlier with
    | nil =>
        obtain ⟨rfl, rfl⟩ := List.cons.inj h
        exact Or.inl ⟨c, hwrote, by simp⟩
    | cons first earlier =>
        obtain ⟨rfl, rfl⟩ := List.cons.inj h
        exact Or.inr ⟨e', c, earlier, between, later, rfl, hwrote⟩
  · rintro (⟨c, hwrote, hcommit⟩ | ⟨e', c, earlier, between, later, rfl, hwrote⟩)
    · obtain ⟨between, later, rfl⟩ := List.append_of_mem hcommit
      exact ⟨e, c, [], between, later, rfl, hwrote⟩
    · exact ⟨e', c, e :: earlier, between, later, rfl, hwrote⟩

end Persists

/-- A commit on the connection that succeeded. -/
def Event.commits (c : ConnectionId) : Event → Bool
  | .commit c' (.ok _) => c' == c
  | _ => false

/-- Rows that were written are kept, as it is found out. -/
def keptIn : List Event → Bool
  | [] => false
  | e :: later => e.wroteOn?.any (fun c => later.any (Event.commits c)) || keptIn later

/-- Whether a connection is committed on can be computed. -/
theorem any_commits {c : ConnectionId} {events : List Event} :
    events.any (Event.commits c) = true ↔ .commit c (.ok ()) ∈ events := by
  have hcommits (e : Event) : e.commits c = true ↔ e = .commit c (.ok ()) := by
    cases e with
    | commit c' result => cases result <;> simp [Event.commits]
    | _ => simp [Event.commits]
  simp [hcommits]

/-- Whether something is kept can be computed, event by event. -/
theorem keptIn_iff {events : List Event} : keptIn events = true ↔ Persists events := by
  induction events with
  | nil =>
      constructor
      · intro h
        cases h
      · intro h
        simpa using h.exists_wrote
  | cons e events ih =>
      -- The first event was kept by a later commit, or it is one of the others.
      rw [keptIn, Bool.or_eq_true, ih, Persists.cons_iff, Option.any_eq_true]
      simp only [any_commits]

instance (events : List Event) : Decidable (Persists events) :=
  decidable_of_iff _ keptIn_iff

/-- A statement is no commit. -/
theorem Stated.ne_commit {c c' : ConnectionId} {e : Event} (h : Stated c e) (result : Result Unit) :
    e ≠ .commit c' result := by
  cases h <;> simp

/-- An opening commits nothing and writes nothing. -/
theorem Opening.quiet {level : Option Isolation} {result : Result ConnectionId}
    {events : List Event} (h : Opening level result events) :
    ∀ e ∈ events, ¬ e.Wrote ∧ ∀ c result, e ≠ .commit c result := by
  cases h <;> simp [Event.Wrote, Event.wroteOn?]

/-- A closing writes nothing. -/
theorem Closing.quiet {c : ConnectionId} {verdict : Option Bool} {events : List Event}
    (h : Closing c verdict events) : ∀ e ∈ events, ¬ e.Wrote := by
  cases h with
  | plain released => simp [Event.Wrote, Event.wroteOn?]
  | ended commit result released => cases commit <;> simp [Event.Wrote, Event.wroteOn?, finishing]

/-- A closing with a commit that succeeded is one with that verdict. -/
theorem Closing.of_commit {c c' : ConnectionId} {verdict : Option Bool} {events : List Event}
    (h : Closing c verdict events) (hcommit : .commit c' (.ok ()) ∈ events) :
    verdict = some true ∧ ∃ released, events = [.commit c (.ok ()), .release c released] := by
  cases h with
  | plain released => simp at hcommit
  | ended commit result released =>
      cases commit with
      | false => simp [finishing] at hcommit
      | true =>
          obtain ⟨rfl, rfl⟩ : c' = c ∧ .ok () = result := by simpa [finishing] using hcommit
          exact ⟨rfl, released, rfl⟩

/-- A closing with a commit is that of an outermost unit that has
succeeded, and the commit and the release are all of it. -/
theorem Closes.of_commit {verdict : Option Bool} {u : Units} {events : List Event}
    {late : List Error} {c : ConnectionId} (h : Closes verdict u events late)
    (hcommit : .commit c (.ok ()) ∈ events) :
    verdict = some true ∧ late = failures events ∧
      ∃ c released, events = [.commit c (.ok ()), .release c released] := by
  cases h with
  | unopened => simp at hcommit
  | nested => simp at hcommit
  | vacant => simp at hcommit
  | outermost _ _ asked =>
      obtain ⟨hverdict, released, hevents⟩ := asked.of_commit hcommit
      -- A verdict counts only on a unit with a transaction.
      refine ⟨?_, rfl, _, released, hevents⟩
      split at hverdict
      · exact hverdict
      · cases hverdict

/-- A closing writes nothing itself. -/
theorem Closes.quiet {verdict : Option Bool} {u : Units} {events : List Event}
    {late : List Error} (h : Closes verdict u events late) : ∀ e ∈ events, ¬ e.Wrote := by
  cases h with
  | unopened => simp
  | nested => simp
  | vacant => simp
  | outermost _ _ asked => exact asked.quiet

/-- Between an opening and a closing, what is kept was written by the
statements, and the closing is a commit. -/
theorem Persists.between {level : Option Isolation} {verdict : Option Bool}
    {r : Result ConnectionId} {c : ConnectionId} {u : Units}
    {opening statements closing : List Event} {late : List Error}
    (hopening : Opening level r opening) (hstated : ∀ e ∈ statements, Stated c e)
    (hclosing : Closes verdict u closing late)
    (h : Persists (opening ++ statements ++ closing)) :
    (∃ e ∈ statements, e.Wrote) ∧ verdict = some true ∧ late = failures closing ∧
      ∃ c released, closing = [.commit c (.ok ()), .release c released] := by
  obtain ⟨e, he, hwrote⟩ := h.exists_wrote
  obtain ⟨c', hcommit⟩ := h.exists_commit
  constructor
  -- The opening and the closing write nothing.
  · rcases List.mem_append.mp he with he | he
    · rcases List.mem_append.mp he with he | he
      · exact absurd hwrote (hopening.quiet e he).1
      · exact ⟨e, he, hwrote⟩
    · exact absurd hwrote (hclosing.quiet e he)
  -- The opening and the statements commit nothing.
  · rcases List.mem_append.mp hcommit with hcommit | hcommit
    · rcases List.mem_append.mp hcommit with hcommit | hcommit
      · exact absurd rfl ((hopening.quiet _ hcommit).2 c' (.ok ()))
      · exact absurd rfl ((hstated _ hcommit).ne_commit (.ok ()))
    · exact hclosing.of_commit hcommit

namespace Database

variable (db : Database σ) {s : Session (Recorded Event σ)}

/-- An opening from depth zero is one of an outermost unit. -/
theorem openUnit_opened (hs : s.units = {}) (level : Option Isolation) :
    ∃ events, ((db.recorded.openUnit level).exec s).2.world.log = s.world.log ++ events ∧
      Opened level ((db.recorded.openUnit level).exec s).2.units events
        ((db.recorded.openUnit level).exec s).1 := by
  obtain ⟨added, -, hlog, h⟩ := Tracks.openUnit id db level s
  obtain ⟨events, rfl, hopened⟩ := h hs
  rw [List.map_id] at hlog
  exact ⟨events, hlog, hopened⟩

/-- A closing does what its unit asks for. -/
theorem closeUnit_closes (s : Session (Recorded Event σ)) (verdict : Option Bool) :
    ∃ events late, ((db.recorded.closeUnit verdict).exec s).2.world.log = s.world.log ++ events ∧
      Closes verdict s.units events late ∧
      ((db.recorded.closeUnit verdict).exec s).1.failure? = late.head? := by
  obtain ⟨added, -, hlog, events, late, rfl, hcloses, hfirst⟩ := Tracks.closeUnit id db verdict s
  rw [List.map_id] at hlog
  exact ⟨events, late, hlog, hcloses, hfirst⟩

end Database

/-! ### Work that settles what it wrote -/

/-- Where no unit is open: if rows are kept, then the work succeeds, with a
result of which `Q` holds; or it fails, with an error that is `late` or that
of a connection that was not taken back. -/
def Settles (Q : α → Prop) (late : Error → Prop) (w : Work (Session (Recorded Event σ)) α) :
    Prop :=
  ∀ s, s.units = {} → ∃ events, (w.exec s).2.world.log = s.world.log ++ events ∧
    (Persists events → (∃ a, (w.exec s).1 = .ok a ∧ Q a) ∨
      ∃ e, (w.exec s).1 = .error e ∧ (late e ∨ Unreleased e events))

namespace Settles

variable {Q : α → Prop} {R : β → Prop} {late : Error → Prop}

/-- Less may be known of a success, and more errors may be late. -/
theorem mono {Q' : α → Prop} {late' : Error → Prop} {w : Work (Session (Recorded Event σ)) α}
    (h : Settles Q late w) (hQ : ∀ a, Q a → Q' a) (hlate : ∀ e, late e → late' e) :
    Settles Q' late' w := by
  intro s hs
  obtain ⟨events, hlog, houtcome⟩ := h s hs
  refine ⟨events, hlog, fun hkept => (houtcome hkept).imp ?_ ?_⟩
  · rintro ⟨a, ha, hQa⟩
    exact ⟨a, ha, hQ a hQa⟩
  · rintro ⟨e, he, hcase⟩
    exact ⟨e, he, hcase.imp_left (hlate e)⟩

/-- Without a statement nothing is kept. -/
theorem ofResult (r : Result α) :
    Settles Q late (Work.ofResult r : Work (Session (Recorded Event σ)) α) :=
  fun _ _ => ⟨[], (List.append_nil _).symm, fun h => by simpa using h.exists_wrote⟩

/-- What the database is not asked for comes first. -/
theorem ofResult_bind {r : Result α} {f : α → Work (Session (Recorded Event σ)) β}
    (h : ∀ a, Settles R late (f a)) : Settles R late (Work.ofResult r >>= f) := by
  cases r with
  | error e => exact ofResult (.error e)
  | ok a => exact h a

/-- A result that is refused when all is over is refused late. -/
theorem bind_ofResult {w : Work (Session (Recorded Event σ)) α} {f : α → Result β}
    (h : Settles Q late w)
    (hf : ∀ a, Q a → (∃ b, f a = .ok b ∧ R b) ∨ ∃ e, f a = .error e ∧ late e) :
    Settles R late (w >>= fun a => Work.ofResult (f a)) := by
  intro s hs
  obtain ⟨events, hlog, houtcome⟩ := h s hs
  have hexec : (w >>= fun a => Work.ofResult (f a)).exec s
      = ((w.exec s).1 >>= f, (w.exec s).2) := by
    rw [Work.exec_bind]
    rcases w.exec s with ⟨e | a, s'⟩ <;> rfl
  rw [hexec]
  refine ⟨events, hlog, fun hkept => ?_⟩
  -- What was kept has settled; the result is looked at only then.
  rcases houtcome hkept with ⟨a, ha, hQ⟩ | ⟨e, he, hcase⟩
  · rw [ha]
    rcases hf a hQ with hok | ⟨e, he, hlate⟩
    · exact Or.inl hok
    · exact Or.inr ⟨e, he, Or.inl hlate⟩
  · rw [he]
    exact Or.inr ⟨e, rfl, hcase⟩

/-- A transaction is kept only if the work in it succeeded, which then
wrote the rows. -/
theorem transaction (db : Database σ) {P : Result α → List Event → Prop}
    {w : Work (Session (Recorded Event σ)) α} (h : Inside id P w)
    (hQ : ∀ a events, P (.ok a) events → (∃ e ∈ events, e.Wrote) → Q a) :
    Settles Q late (db.recorded.transaction w) := by
  intro s hs
  obtain ⟨opening, hlog, hopened⟩ := db.openUnit_opened hs (some db.settings.isolation)
  rcases hopen : (db.recorded.openUnit (some db.settings.isolation)).exec s with ⟨r, ⟨u, world⟩⟩
  rw [hopen] at hlog hopened
  cases hopened with
  | refused asked _ =>
      have hexec : (db.recorded.transaction w).exec s = _ := Work.exec_enclosed_error hopen
      rw [hexec]
      refine ⟨opening, hlog, fun hkept => ?_⟩
      obtain ⟨e, he, hwrote⟩ := hkept.exists_wrote
      exact absurd hwrote (asked.quiet e he).1
  | @opened c _ asked =>
      -- The work in the unit leaves it open, so that there is a transaction to be ended.
      rcases hown : w.exec ⟨⟨1, some c, true⟩, world⟩ with ⟨own, t⟩
      obtain ⟨-, -, -, statements, hlog', hstated, hP⟩ :=
        h ⟨⟨1, some c, true⟩, world⟩ c rfl Nat.one_pos
      rw [hown] at hlog' hP
      replace hlog' : t.world.log = world.log ++ statements := hlog'
      obtain ⟨closing, failed, hlog'', hcloses, hfirst⟩ := db.closeUnit_closes t (some own.isOk)
      rcases hclose : (db.recorded.closeUnit (some own.isOk)).exec t with ⟨ended, t'⟩
      rw [hclose] at hlog'' hfirst
      have hexec : (db.recorded.transaction w).exec s = _ :=
        Work.exec_enclosed_closed hopen hown hclose
      rw [hexec]
      refine ⟨opening ++ statements ++ closing, ?_, fun hkept => ?_⟩
      · rw [hlog'', hlog', hlog]
        simp
      · obtain ⟨hwrote, hverdict, rfl, c', released, rfl⟩ := hkept.between asked hstated hcloses
        cases own with
        | error e => cases hverdict
        | ok a =>
            cases released with
            | ok _ =>
                obtain rfl := Result.failure?_eq_none.mp hfirst
                exact Or.inl ⟨a, rfl, hQ a statements hP hwrote⟩
            | error reason =>
                obtain rfl := Result.failure?_eq_some.mp hfirst
                exact Or.inr ⟨_, rfl, Or.inr ⟨c', reason, _, rfl, rfl⟩⟩

/-! #### On a copy of a subject -/

section Copy
variable {subject : τ}

/-- The subject is read, and the session stays as it is. -/
theorem onCopy_get_bind
    {f : τ × Session (Recorded Event σ) → Work (τ × Session (Recorded Event σ)) α}
    (h : ∀ s, Settles Q late (Dao.onCopy subject (f (subject, s)))) :
    Settles Q late (Dao.onCopy subject (get >>= f)) :=
  fun s => h s s

/-- An outcome that is known beforehand writes nothing. -/
theorem onCopy_ofResult_bind {r : Result α} {f : α → Work (τ × Session (Recorded Event σ)) β}
    (h : ∀ a, Settles R late (Dao.onCopy subject (f a))) :
    Settles R late (Dao.onCopy subject (Work.ofResult r >>= f)) := by
  cases r with
  | error e => exact ofResult (.error e)
  | ok a => exact h a

/-- Work on the subject writes nothing. -/
theorem onCopy_onSubject_bind {w : Work τ α} {f : α → Work (τ × Session (Recorded Event σ)) β}
    (h : ∀ a subject, Settles R late (Dao.onCopy subject (f a))) :
    Settles R late (Dao.onCopy subject (Database.onSubject w >>= f)) := by
  rcases hrun : w.exec subject with ⟨e | a, subject'⟩
  · rw [Dao.onCopy_onSubject_error hrun]
    exact ofResult (.error e)
  · rw [Dao.onCopy_onSubject_ok hrun]
    exact h a subject'

/-- What is known of work on an entity in its unit, when it has succeeded
and written something, is settled with the unit. -/
theorem onCopy_transactionOn (db : Database σ) {P : Result α → List Event → Prop}
    {w : Work (τ × Session (Recorded Event σ)) α} (h : Inside Prod.snd P w)
    (hQ : ∀ a events, P (.ok a) events → (∃ e ∈ events, e.Wrote) → Q a) :
    Settles Q late (Dao.onCopy subject (db.recorded.transactionOn w)) := by
  rw [Dao.onCopy_transactionOn]
  exact transaction db (h.onCopy subject) hQ

end Copy

end Settles

end DataAccess
