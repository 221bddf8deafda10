import DataAccess.Proofs.Dao.CascadeCycles

/-!
# `DataAccess.Proofs.Dao.CascadeBound`: a cascade is bounded

`deleteCascadeByCriteria_bounded` says two things of a cascading delete.
Whatever the types, the source and the hooks are, it does what is done level by
level, sends nothing beyond the last level, and no more statements than the
links between the types allow. And if one of its roots reaches a cycle of rows,
in tables and without hooks, it breaks off (`BrokenOff`): it fails for the
depth, neither the roots nor rows that reach a cycle are deleted on the way,
and its transaction is rolled back.

What happens inside of the transaction is in
`DataAccess.Proofs.Dao.CascadeCycles`; here are the opening and the closing
around it. Fields with points in their names are left out, since rows that
depend through them are not found (`deleteCascadeByCriteria_unbroken`).
-/

set_option autoImplicit false

namespace DataAccess

variable {σ ι ε : Type}

/-! ### Units that are undone -/

/-- The event ends a transaction without a commit, or gives a connection
back. -/
def Event.undoes : Event → Bool
  | .rollback .. | .release .. => true
  | _ => false

/-- Nothing went wrong but what undoes a transaction. -/
def Smooth (log : List (Nat × Event)) : Prop :=
  ∀ entry ∈ log, entry.2.failure? = none ∨ entry.2.undoes = true

section Units
variable {level : Option Isolation} {u u' : Units} {events : List Event}

/-- A unit that was opened has a connection. -/
theorem Opens.connected (h : Opens level u u' events (.ok ())) :
    u'.connection.isSome = true := by
  cases h with
  | joined there =>
      rw [Units.join, there]
      rfl
  | entered => rfl

/-- Opening a unit commits nothing. -/
theorem Opens.uncommitted {result : Result Unit} (h : Opens level u u' events result)
    (c : ConnectionId) (ended : Result Unit) : Event.commit c ended ∉ events := by
  have hasked {opened : Result ConnectionId} (h : Opening level opened events) :
      Event.commit c ended ∉ events := by
    cases h <;> simp
  cases h with
  | joined => simp
  | refused _ asked => exact hasked asked
  | entered _ asked => exact hasked asked

/-- A unit is not opened only if something goes wrong. -/
theorem Opens.rough {e : Error} (h : Opens level u u' events (.error e)) (n : Nat) :
    ¬ Smooth (events.map fun event => (n, event)) := by
  intro hsmooth
  have hasked (event : Event) (hevent : event ∈ events) :
      event.failure? = none ∨ event.undoes = true :=
    hsmooth _ (List.mem_map_of_mem hevent)
  cases h with
  | refused _ asked =>
      -- The connection was refused, or the transaction was not begun.
      cases asked with
      | refused _ reason =>
          simpa [Event.failure?, Event.undoes] using hasked (.acquire (.error reason)) (by simp)
      | failed c isolation _ _ reason =>
          simpa [Event.failure?, Event.undoes] using
            hasked (.begin c isolation (.error reason)) (by simp)

/-- A closing that is told of a failure undoes the transaction. -/
theorem Closes.undone {late : List Error} (h : Closes (some false) u events late) :
    ∀ event ∈ events, event.undoes = true := by
  cases h with
  | unopened => simp
  | nested => simp
  | vacant => simp
  | outermost _ _ asked =>
      split at asked
      · cases asked
        simp [finishing, Event.undoes]
      · cases asked
        simp [Event.undoes]

/-- A unit of its own begins a transaction, and rolls it back. -/
theorem Opens.rolledBack {isolation : Isolation} {closing : List Event} {late : List Error}
    (hopens : Opens (some isolation) {} u' events (.ok ()))
    (hcloses : Closes (some false) u' closing late) :
    ∃ c ended released, events = [.acquire (.ok c), .begin c isolation (.ok ())] ∧
      closing = [.rollback c ended, .release c released] := by
  cases hopens with
  | joined there => cases there
  | entered _ asked =>
      cases asked with
      | acquired _ plain => cases plain
      | begun c _ wanted =>
          cases wanted
          -- The unit is the outermost one, and has a transaction to roll back.
          cases hcloses with
          | unopened closed => cases closed
          | nested around => cases around
          | vacant _ gone => cases gone
          | outermost _ there asked =>
              cases there
              cases asked with
              | ended _ ended released => exact ⟨_, ended, released, rfl, rfl⟩

end Units

/-! ### A cascade that breaks off -/

/-- How a cascading delete ends that comes to a cycle of rows: what it asked
for from the units `u` on, each with its level, and its result. -/
structure BrokenOff (dao : Dao σ ι ε) (st : Store) (u : Units) (log : List (Nat × Event))
    (result : Result UInt64) : Prop where
  /-- There is no deletion of the roots, and none of a row from which a cycle
  is reached. -/
  spares : ∀ level c command written, (level, Event.execute c command written) ∈ log →
    1 ≤ level ∧ dao.model.schema.SparesCycles st command.statement
  uncommitted : ∀ level c ended, (level, Event.commit c ended) ∉ log
  fails : ∃ e, result = .error e
  /-- It fails for the declarations if nothing else went wrong, and for the
  depth if these are valid. -/
  atFault : Smooth log → ∃ e, result = .error e ∧ dao.AtFault e
  /-- A transaction of its own is rolled back. -/
  rolledBack : u = {} → Smooth log → ∃ c statements ended released,
    log = [(0, .acquire (.ok c)), (0, .begin c dao.db.settings.isolation (.ok ()))]
      ++ statements ++ [(0, .rollback c ended), (0, .release c released)] ∧
    ∀ entry ∈ statements, entry.2.isStatement = true

namespace BrokenOff

variable {dao : Dao σ ι ε} {st : Store} {u u' : Units} {opening : List Event} {e : Error}

/-- There is no unit, and no statement was sent. -/
theorem of_refused {level : Option Isolation} (h : Opens level u u' opening (.error e)) :
    BrokenOff dao st u (opening.map fun event => (0, event)) (.error e) where
  spares level c command written hmem := by
    obtain ⟨event, hevent, heq⟩ := List.mem_map.mp hmem
    cases heq
    cases h.unstated _ hevent
  uncommitted level c ended hmem := by
    obtain ⟨event, hevent, heq⟩ := List.mem_map.mp hmem
    cases heq
    exact h.uncommitted c ended hevent
  fails := ⟨e, rfl⟩
  atFault hsmooth := absurd hsmooth (h.rough 0)
  rolledBack _ hsmooth := absurd hsmooth (h.rough 0)

/-- There is a unit, and in it work that broke off. -/
theorem of_closed {added : List (Nat × Event)} {closing : List Event} {late : List Error}
    (hopens : Opens (some dao.db.settings.isolation) u u' opening (.ok ()))
    (hadded : ∀ entry ∈ added, dao.Sparing st entry)
    (he : (∀ entry ∈ added, entry.2.failure? = none) → dao.AtFault e)
    (hcloses : Closes (some false) u' closing late) :
    BrokenOff dao st u (opening.map (fun event => (0, event)) ++ added
      ++ closing.map fun event => (0, event)) (.error e) := by
  -- An entry is of the opening, of the work or of the closing.
  have hentry {level : Nat} {event : Event} (hmem : (level, event) ∈
      opening.map (fun event => (0, event)) ++ added ++ closing.map fun event => (0, event)) :
      event ∈ opening ∨ (level, event) ∈ added ∨ event ∈ closing := by
    simp only [List.mem_append, List.mem_map, Prod.mk.injEq] at hmem
    rcases hmem with (⟨_, h, -, rfl⟩ | h) | ⟨_, h, -, rfl⟩
    · exact Or.inl h
    · exact Or.inr (Or.inl h)
    · exact Or.inr (Or.inr h)
  refine ⟨fun level c command written hmem => ?_, fun level c ended hmem => ?_, ⟨e, rfl⟩,
    fun hsmooth => ⟨e, rfl, he fun entry hin => ?_⟩, ?_⟩
  · rcases hentry hmem with h | h | h
    · cases hopens.unstated _ h
    · exact (hadded _ h).2 c command written rfl
    · cases hcloses.unstated _ h
  · rcases hentry hmem with h | h | h
    · exact hopens.uncommitted c ended h
    · cases (hadded _ h).1
    · cases hcloses.undone _ h
  · -- A statement undoes nothing.
    refine (hsmooth entry (by simp [hin])).resolve_right fun hundoes => ?_
    have hstatement := (hadded entry hin).1
    rcases entry with ⟨_, _ | _ | _ | _ | _ | _ | _ | _⟩ <;>
      simp [Event.isStatement, Event.undoes] at hstatement hundoes
  · rintro rfl -
    obtain ⟨c, ended, released, rfl, rfl⟩ := hopens.rolledBack hcloses
    exact ⟨c, added, ended, released, rfl, fun entry hin => (hadded entry hin).1⟩

end BrokenOff

namespace Dao

variable {dao : Dao σ ι ε}

/-- The fault of the declarations is not put down to the operation. -/
theorem AtFault.inOperation {e : Error} (h : dao.AtFault e) (operation : String) :
    dao.AtFault (e.inOperation operation) := by
  have hsame : e.inOperation operation = e := by
    have hconfiguration := h.configuration
    cases e with
    | database => cases hconfiguration
    | _ => rfl
  rwa [hsame]

/-- Hooks that do nothing make no difference. -/
theorem deleting_unhooked (hquiet : dao.hooks = {}) (criteria : Criteria ι)
    (w : Work (Session (Recorded (Nat × Event) σ)) UInt64) :
    (dao.atLevel 0).deleting criteria w
      = (dao.atLevel 0).db.transaction (w.mapError (.inOperation "deletion")) := by
  have hhooks : Work.enclosed ((dao.atLevel 0).hooks.beforeDelete criteria)
      ((dao.atLevel 0).hooks.afterDelete criteria) w = w := by
    apply Work.ext
    intro s
    have hbefore : ((dao.atLevel 0).hooks.beforeDelete criteria).exec s = (.ok (), s) := by
      rw [atLevel, hquiet]
      rfl
    have hafter (success : Bool) (t : Session (Recorded (Nat × Event) σ)) :
        ((dao.atLevel 0).hooks.afterDelete criteria success).exec t = (.ok (), t) := by
      rw [atLevel, hquiet]
      rfl
    -- The result of the work is not changed by hooks that succeed.
    rcases hrun : w.exec s with ⟨result, t⟩
    rw [Work.exec_enclosed_closed hbefore hrun (hafter _ _)]
    cases result <;> rfl
  rw [deleting, hhooks, write]

/-- A transaction with work that breaks off. -/
theorem brokenOff_transaction (r : Relational dao.model.schema dao.db.source) {st : Store}
    (operation : String) {w : Work (Session (Recorded (Nat × Event) σ)) UInt64} {s : Session σ}
    (hw : ∀ t, t.units.connection.isSome = true → r.view t.world.state = r.view s.world →
      Proceeds r st (fun _ => False) w t) :
    let run := ((dao.atLevel 0).db.transaction (w.mapError (.inOperation operation))).exec
      ⟨s.units, ⟨[], s.world⟩⟩
    BrokenOff dao st s.units run.2.world.log run.1 := by
  intro run
  obtain ⟨_, hsame, hlog, opening, rfl, hopens⟩ := Tracks.opens (fun event => (0, event)) dao.db
    (some dao.db.settings.isolation) ⟨s.units, ⟨[], s.world⟩⟩
  rcases hopen : ((dao.db.noted fun event => (0, event)).openUnit
    (some dao.db.settings.isolation)).exec ⟨s.units, ⟨[], s.world⟩⟩ with ⟨e | _, t⟩ <;>
    rw [hopen] at hsame hlog hopens
  · have hrun : run = (.error e, t) := Work.exec_enclosed_error hopen
    rw [hrun, show t.world.log = _ from hlog]
    exact .of_refused hopens
  -- The source shows in the unit what it showed before.
  have hview : r.view t.world.state = r.view s.world := r.openUnit_same _ s () t.erased hsame
  obtain ⟨added, hadded, hunits, hspares, hok, herror⟩ := hw t hopens.connected hview
  rcases hwork : w.exec t with ⟨e | n, t'⟩ <;> rw [hwork] at hadded hunits hok herror
  · obtain ⟨_, -, hclosed, closing, late, rfl, hcloses, -⟩ :=
      Tracks.closeUnit (fun event => (0, event)) dao.db (some false) t'
    have hmapped : (w.mapError (.inOperation operation)).exec t
        = (.error (e.inOperation operation), t') := by
      rw [Work.exec_mapError, hwork]
      rfl
    have hrun : run = (.error (e.inOperation operation),
        (((dao.db.noted fun event => (0, event)).closeUnit (some false)).exec t').2) :=
      Work.exec_enclosed_closed hopen hmapped rfl
    have hfinal : run.2.world.log = opening.map (fun event => (0, event)) ++ added
        ++ closing.map fun event => (0, event) := by
      rw [hrun]
      refine hclosed.trans ?_
      rw [show (View.alone.session t').world.log = _ from hadded, show t.world.log = _ from hlog]
      rfl
    rw [hfinal, hrun]
    have hcloses : Closes (some false) t.units closing late := hunits ▸ hcloses
    exact .of_closed hopens hspares (fun hsound => (herror e rfl hsound).inOperation _) hcloses
  · exact (hok n rfl).1.elim

variable [DecidableEq ι]

/-- A cascading delete does what is done level by level, and what it sends is
confined: nothing is sent on a level beyond the limit, and the links between
the types bound how many statements there are, whatever the source answers and
the hooks do.

In tables, and without hooks, a delete of rows from one of which a cycle of
rows is reached through dependents breaks off. -/
theorem deleteCascadeByCriteria_bounded (dao : Dao σ ι ε) (criteria : Criteria ι)
    (s : Session σ) :
    let run := dao.deleteCascadeAt.exec (criteria, ⟨s.units, ⟨[], s.world⟩⟩)
    let log := run.2.2.world.log
    dao.deleteCascadeByCriteria.exec (criteria, s) = (run.1, run.2.1, run.2.2.erased) ∧
    Confined dao 0 (fun width => cascadeBudget width (dao.db.settings.joinMaxDepth + 1)) log ∧
    ∀ (r : Relational dao.model.schema dao.db.source) (select : Statement) (ids : List Int64),
      let st := (r.view s.world).now
      dao.model.schema.Plain → dao.hooks = {} →
      dao.selectIds criteria.suspendLimits = .ok select →
      r.Reads (r.view s.world) select dao.kind ids →
      (∀ k, ∀ t ∈ st (dao.model.schema k).table, ∃ i, dao.model.schema.identityOf? k t = some i) →
      (∃ t, ∃ i ∈ ids, dao.model.schema.identityOf? dao.kind t = some i ∧
        dao.model.schema.ReachesCycle st (dao.kind, t)) →
      BrokenOff dao st s.units log run.1 := by
  intro run log
  obtain ⟨added, hsame, hlog, hconfined⟩ :=
    confined_deleteCascadeAt dao (criteria, ⟨s.units, ⟨[], s.world⟩⟩)
  have hadded : log = added := hlog
  refine ⟨hsame, hadded ▸ hconfined, ?_⟩
  intro r select ids st hplain hquiet hselect hroots hidentified hreaches
  -- The statement that reads the roots is made before the transaction begins.
  have hsubject : (Database.onSubject (Criteria.limitedTo none dao.selectIds)).exec
      (criteria, (⟨s.units, ⟨[], s.world⟩⟩ : Session (Recorded (Nat × Event) σ)))
      = (.ok (.ok select), (criteria, ⟨s.units, ⟨[], s.world⟩⟩)) := by
    rw [Database.onSubject, Work.exec_within, Criteria.exec_limitedTo]
    exact congrArg (fun select => (Except.ok select, _)) hselect
  have hproceeds : ∀ t : Session (Recorded (Nat × Event) σ),
      t.units.connection.isSome = true → r.view t.world.state = r.view s.world →
      Proceeds r st (fun _ => False) (dao.deleteCascadeRowsAt select) t := by
    intro t hconnected hview
    rw [← hview] at hroots
    refine proceeds_deleteCascadeRowsAt hplain ⟨hconnected, ?_⟩ hidentified hroots hreaches
    rw [hview]
    exact .refl
  have hbroken := brokenOff_transaction r "deletion" hproceeds
  rw [← deleting_unhooked hquiet criteria] at hbroken
  have hrun : run = _ := Work.exec_bind_ok hsubject
  rw [show log = run.2.2.world.log from rfl, hrun]
  exact hbroken

end Dao

/-! ### Two captains -/

namespace League

/-- Two players of one team, each of whom is the captain of the other. -/
def captains : Store
  | "team" => [idRow 1]
  | "player" => [playerRow 5 1 (.int64 6) .null, playerRow 6 1 (.int64 5) .null]
  | _ => []

/-- The team is deleted, level by level. -/
def dissolution (teamField : String) :
    Result UInt64 × Criteria League × Session (Recorded (Nat × Event) History) :=
  (dao teamField).deleteCascadeAt.exec (firstTeam, .start ⟨[], ⟨captains, []⟩⟩)

/-- The first team is the one that the query reads. -/
theorem reads_captains (teamField : String) :
    (History.relational (schema teamField)).Reads ⟨captains, []⟩
      (.project (.among "team" "id" [1]) [.column ⟨.main, "id"⟩]) .team [1] where
  read hw h := by
    subst hw
    obtain ⟨hrows, rfl⟩ := Prod.mk.inj h
    obtain rfl := Except.ok.inj hrows
    exact ⟨rfl, by decide +kernel⟩
  found i hi := by
    obtain rfl := List.mem_singleton.mp hi
    exact ⟨idRow 1, by simp [captains, schema], rfl⟩

/-- Every row of the two captains' store has an identity. -/
theorem identified_captains (teamField : String) (k : League) :
    ∀ t ∈ captains (schema teamField k).table,
      ∃ i, (schema teamField).identityOf? k t = some i := by
  intro t ht
  cases k <;> simp only [captains, schema, List.mem_cons, List.not_mem_nil, or_false] at ht
  · subst ht
    exact ⟨1, rfl⟩
  · rcases ht with rfl | rfl
    · exact ⟨5, rfl⟩
    · exact ⟨6, rfl⟩
  · exact absurd ht (by simp)

/-- The players of the team reach a cycle, whatever the name of the field is
that points at the team. -/
theorem reachesCycle_captains (teamField : String)
    (hcolumn : (schema teamField .player).columnName teamField = .ok "team_id")
    (hcaptain : (schema teamField .player).columnName "captain_id" = .ok "captain_id") :
    (schema teamField).ReachesCycle captains (.team, idRow 1) := by
  have hteam : (schema teamField).Depends captains (.team, idRow 1)
      (.player, playerRow 5 1 (.int64 6) .null) :=
    ⟨by simp [captains, schema], by simp [captains, schema], teamField, 1,
      ⟨by simp [schema], _, List.mem_cons_self, rfl, rfl⟩, rfl, by
        rw [Schema.pointerOf?, hcolumn]
        rfl⟩
  have hlink : (schema teamField).Links .player .player "captain_id" :=
    ⟨by simp [schema], _, List.mem_cons_of_mem _ List.mem_cons_self, rfl, rfl⟩
  -- Each of the two captains plays under the other.
  have hcaptains : ∀ i j : Int64, [i, j] = [5, 6] ∨ [i, j] = [6, 5] →
      (schema teamField).Depends captains (.player, playerRow i 1 (.int64 j) .null)
        (.player, playerRow j 1 (.int64 i) .null) := by
    rintro i j (h | h) <;> cases h <;>
      exact ⟨by simp [captains, schema], by simp [captains, schema], "captain_id", _, hlink, rfl, by
        rw [Schema.pointerOf?, hcaptain]
        rfl⟩
  exact ⟨_, .single hteam, .tail (.single (hcaptains 5 6 (Or.inl rfl)))
    (hcaptains 6 5 (Or.inr rfl))⟩

end League

/-- The team of the two captains is not deleted. The cascade goes round their
cycle for as many levels as there may be, and is rolled back. -/
theorem Dao.deleteCascadeByCriteria_bounded_captains :
    let run := League.dissolution "team_id"
    BrokenOff (League.dao "team_id") League.captains {} run.2.2.world.log run.1 ∧
      run.1.failure? = some (.configuration (.cascadeTooDeep "player" 20)) ∧
      run.2.2.world.log.map Prod.fst = [0, 0] ++ List.range 21 ++ [0, 0] := by
  intro run
  refine ⟨?_, by decide +kernel, by decide +kernel⟩
  obtain ⟨-, -, hbroken⟩ := Dao.deleteCascadeByCriteria_bounded (League.dao "team_id")
    League.firstTeam (.start ⟨League.captains, []⟩)
  -- The row with the identity 1 is a root, and reaches the cycle.
  refine hbroken (History.relational (League.schema "team_id")) _ [1]
    ⟨League.tables "team_id", by intro k; cases k <;> decide⟩ rfl
    (League.selectIds_firstTeam "team_id") (League.reads_captains "team_id")
    (League.identified_captains "team_id")
    ⟨League.idRow 1, 1, by simp, rfl, League.reachesCycle_captains "team_id" rfl rfl⟩

/-- If the field that points at the team is written like a path, its players
are not found. The cascade does not come to the cycle, and the team is
deleted. -/
theorem Dao.deleteCascadeByCriteria_unbroken :
    let run := League.dissolution "boss.id"
    (∀ k, (League.schema "boss.id" k).validate = .ok ()) ∧
      (League.schema "boss.id").ReachesCycle League.captains (.team, League.idRow 1) ∧
      run.1.toOption = some 1 ∧ run.2.2.world.state.now "team" = [] ∧
      ¬ BrokenOff (League.dao "boss.id") League.captains {} run.2.2.world.log run.1 := by
  intro run
  have hok : run.1.toOption = some 1 := by decide +kernel
  refine ⟨fun k => (League.valid k).2, League.reachesCycle_captains "boss.id" rfl rfl, hok, ?_, ?_⟩
  · exact List.eq_nil_of_length_eq_zero (by decide +kernel)
  -- The run succeeds, and a run that is broken off does not.
  · intro hbroken
    obtain ⟨e, he⟩ := hbroken.fails
    rw [he] at hok
    cases hok

end DataAccess
