import DataAccess.Proofs.Dao.Program
import DataAccess.Proofs.Database.Persistence

/-!
# `DataAccess.Proofs.Dao.FailedWrite`: what a failed write leaves behind

A caller that is told of an error takes it that nothing was written.
`Database.Write` lists the writes that a caller makes where no unit is open:
a statement or a transaction of its own, and the operations of a `Dao`
(`Dao.Write`). Those that count the rows after their transaction have errors
of their own then, of which nothing is said where more was written than what
they count: a cascading delete counts its roots only, and a hook may write
as well.

`Database.Write.run_failed` says that a write that fails persists nothing,
however the source answers, and whatever the hooks and the closures do
inside of the units that they find. What it has to leave out does happen
(`Database.Write.run_failed_kept`).
-/

set_option autoImplicit false

namespace DataAccess

variable {σ ι ε α : Type}

/-! ### The writes of a `Dao` -/

namespace Dao

variable {dao : Dao (Recorded Event σ) ι ε}

/-- The hooks around the writes leave the unit open that they are run in. -/
structure HooksStay (dao : Dao (Recorded Event σ) ι ε) : Prop where
  beforeSave : Stays Prod.snd dao.hooks.beforeSave
  afterSave : ∀ e success, Stays id (dao.hooks.afterSave e success)
  beforeInsert : Stays Prod.snd dao.hooks.beforeInsert
  afterInsert : ∀ e success, Stays id (dao.hooks.afterInsert e success)
  beforeUpdate : Stays Prod.snd dao.hooks.beforeUpdate
  afterUpdate : ∀ e success, Stays id (dao.hooks.afterUpdate e success)
  beforeDelete : ∀ criteria, Stays id (dao.hooks.beforeDelete criteria)
  afterDelete : ∀ criteria success, Stays id (dao.hooks.afterDelete criteria success)

/-- Hooks that are trees of units do. -/
theorem HookTrees.stay {db : Database σ} (hooks : dao.HookTrees) (on : dao.db = db.recorded) :
    dao.HooksStay := by
  obtain ⟨_, _, _, _⟩ := dao
  obtain rfl := on
  -- Each hook on its own; those of loads are not in a write.
  exact {
    beforeSave := .of_isTree hooks.beforeSave
    afterSave e success := .of_isProgram (hooks.afterSave e success)
    beforeInsert := .of_isTree hooks.beforeInsert
    afterInsert e success := .of_isProgram (hooks.afterInsert e success)
    beforeUpdate := .of_isTree hooks.beforeUpdate
    afterUpdate e success := .of_isProgram (hooks.afterUpdate e success)
    beforeDelete criteria := .of_isProgram (hooks.beforeDelete criteria)
    afterDelete criteria success := .of_isProgram (hooks.afterDelete criteria success) }

/-- The hooks around deletes write no rows. -/
structure QuietDeletes (dao : Dao (Recorded Event σ) ι ε) : Prop where
  before : ∀ criteria, Inside id (fun _ events => ∀ e ∈ events, ¬ e.Wrote)
    (dao.hooks.beforeDelete criteria)
  after : ∀ criteria success, Inside id (fun _ events => ∀ e ∈ events, ¬ e.Wrote)
    (dao.hooks.afterDelete criteria success)

/-- The writes of a type, each with the errors of its own that it finds
when its transaction is over, and of which nothing is said. -/
inductive Write (dao : Dao (Recorded Event σ) ι ε) :
    (Error → Prop) → {α : Type} → Work (Session (Recorded Event σ)) α → Prop where
  | insert (e : ε) : dao.Write (fun _ => False) (onCopy e dao.insert)
  | update (e : ε) : dao.Write (fun _ => False) (onCopy e dao.update)
  | save (e : ε) : dao.Write (fun _ => False) (onCopy e dao.save)
  | updateFields (fields : List (String × Value)) (criteria : Criteria ι) :
      dao.Write (fun _ => False) (dao.updateFields fields criteria)
  | updateAll (fields : List (String × Value)) :
      dao.Write (fun _ => False) (dao.updateAll fields)
  | updateById (id : Int64) (fields : List (String × Value)) :
      dao.Write (fun _ => False) (dao.updateById id fields)
  | updateByCondition (fields : List (String × Value)) (template : String) (values : List Value) :
      dao.Write (fun _ => False) (dao.updateByCondition fields template values)
  | deleteByCriteria (criteria : Criteria ι) :
      dao.Write (fun _ => False) (dao.deleteByCriteria criteria)
  | deleteByCondition (template : String) (values : List Value) :
      dao.Write (fun _ => False) (dao.deleteByCondition template values)
  | deleteAll : dao.Write (fun _ => False) dao.deleteAll
  /-- A hook may have written, where there was nothing to be deleted. -/
  | deleteById (id : Int64) :
      dao.Write (fun e => e = .noRecordAffected "deleted" ∧ ¬ dao.QuietDeletes)
        (dao.deleteById id)
  | delete (e : ε) :
      dao.Write (fun e => e = .noRecordAffected "deleted" ∧ ¬ dao.QuietDeletes) (dao.delete e)
  | deleteCascadeByCriteria [DecidableEq ι] (criteria : Criteria ι) :
      dao.Write (fun _ => False) (onCopy criteria dao.deleteCascadeByCriteria)
  /-- Dependents may have been deleted, where their root was not. -/
  | deleteCascadeById [DecidableEq ι] (id : Int64) :
      dao.Write (fun e => e = .noRecordAffected "deleted") (dao.deleteCascadeById id)
  | deleteCascade [DecidableEq ι] (e : ε) :
      dao.Write (fun e => e = .noRecordAffected "deleted") (dao.deleteCascade e)

/-! #### Between the hooks -/

/-- The number is that of rows that were written. -/
def Counts (result : Result UInt64) (events : List Event) : Prop :=
  ∀ rows, result = .ok rows → (∃ e ∈ events, e.Wrote) → rows ≠ 0

/-- A statement that is reported to have touched no rows has written
nothing. -/
theorem counts_execute (db : Database σ) (statement : Statement) :
    Inside id Counts (do
      let written ← db.recorded.execute statement
      return written.rows) := by
  have hpure (written : Written) :
      Inside id (fun result later => result = .ok written.rows ∧ later = [])
        (pure written.rows : Work (Session (Recorded Event σ)) UInt64) := .pure ⟨rfl, rfl⟩
  refine (Inside.execute db statement).bind hpure (fun e events _ rows h => by cases h) ?_
  rintro written result _ _ ⟨c, rfl⟩ ⟨rfl, rfl⟩ rows h ⟨e, he, hwrote⟩
  cases h
  -- The only event is that of the statement.
  obtain rfl : e = .execute c ⟨db.dialect, statement⟩ (.ok written) := by simpa using he
  intro hzero
  simp [Event.Wrote, Event.wroteOn?, hzero] at hwrote

section
variable {db : Database σ} (on : dao.db = db.recorded)
include on

/-- The work of an insertion stays inside its unit. -/
theorem stays_insertRow : Stays Prod.snd dao.insertRow := by
  have h : IsTree dao.db dao.insertRow := isTree_insertRow
  rw [on] at h
  exact .of_isTree h

/-- The work of an update stays inside its unit. -/
theorem stays_updateRow (id : Int64) : Stays Prod.snd (dao.updateRow id) := by
  have h : IsTree dao.db (dao.updateRow id) := isTree_updateRow id
  rw [on] at h
  exact .of_isTree h

/-- A cascade stays inside its unit, however deep it goes. -/
theorem stays_deleteCascadeRows [DecidableEq ι] (select : Statement) :
    Stays id (dao.deleteCascadeRows select) := by
  have h : IsProgram dao.db (dao.deleteCascadeRows select) := isProgram_deleteCascadeRows select
  rw [on] at h
  exact .of_isProgram h

omit on in
/-- The hooks around an entity stay inside the unit, with the work between
them. -/
theorem stays_saving (hooks : dao.HooksStay) {before : Work (ε × Session (Recorded Event σ)) Unit}
    {after : ε → Bool → Work (Session (Recorded Event σ)) Unit}
    {w : Work (ε × Session (Recorded Event σ)) Unit} (hbefore : Stays Prod.snd before)
    (hafter : ∀ e success, Stays id (after e success)) (h : Stays Prod.snd w) :
    Stays Prod.snd (dao.saving before after w) := by
  refine .enclosed (hooks.beforeSave.bind fun _ => hbefore) (fun success => ?_) h
  refine Inside.get_bind fun (e, _) => ?_
  exact Stays.bind (Inside.onSession (hafter e success)) fun _ =>
    Inside.onSession (hooks.afterSave e success)

end

/-- The hooks around a deletion stay inside the unit, with the work between
them. -/
theorem stays_deleting (hooks : dao.HooksStay) (criteria : Criteria ι)
    {w : Work (Session (Recorded Event σ)) UInt64} (h : Stays id w) :
    Stays id (Work.enclosed (dao.hooks.beforeDelete criteria) (dao.hooks.afterDelete criteria) w) :=
  .enclosed (hooks.beforeDelete criteria) (hooks.afterDelete criteria) h

/-- Hooks that write nothing leave the number as it is. -/
theorem counts_deleting (quiet : dao.QuietDeletes) (criteria : Criteria ι)
    {w : Work (Session (Recorded Event σ)) UInt64} (h : Inside id Counts w) :
    Inside id Counts
      (Work.enclosed (dao.hooks.beforeDelete criteria) (dao.hooks.afterDelete criteria) w) := by
  -- What was written was written by the work itself, whose count is returned.
  have hconcluded : Inside id Counts (w.concluding (dao.hooks.afterDelete criteria)) := by
    refine h.concluding (quiet.after criteria) fun own late events later hcounts hquiet => ?_
    rintro rows hrows ⟨e, he, hwrote⟩
    obtain rfl : own = .ok rows := by
      cases own <;> cases late <;> simp_all [Work.concluded]
    rcases List.mem_append.mp he with he | he
    · exact hcounts rows rfl ⟨e, he, hwrote⟩
    · exact absurd hwrote (hquiet e he)
  refine (quiet.before criteria).bind (fun _ => hconcluded)
    (fun _ _ _ _ hrows => by cases hrows) fun _ result events later hquiet hcounts => ?_
  rintro rows hrows ⟨e, he, hwrote⟩
  rcases List.mem_append.mp he with he | he
  · exact absurd hwrote (hquiet e he)
  · exact hcounts rows hrows ⟨e, he, hwrote⟩

/-! #### In a transaction -/

section
variable {db : Database σ} {late : Error → Prop} (on : dao.db = db.recorded)
include on

/-- What is known of work that succeeds is known of it in a transaction. -/
theorem settles_write {P : Result α → List Event → Prop} {Q : α → Prop} {late : Error → Prop}
    (operation : String) {w : Work (Session (Recorded Event σ)) α} (h : Inside id P w)
    (hQ : ∀ a events, P (.ok a) events → (∃ e ∈ events, e.Wrote) → Q a) :
    Settles Q late (dao.write operation w) := by
  have hmapped : Inside id (fun result events => ∀ a, result = .ok a → P (.ok a) events)
      (w.mapError (.inOperation operation)) := by
    refine h.mapError fun own events hP a ha => ?_
    -- The name of the operation in an error does not matter to a success.
    cases own with
    | error e => cases ha
    | ok b =>
        cases ha
        exact hP
  rw [write, on]
  exact .transaction db hmapped fun a events hP => hQ a events (hP a rfl)

/-- A write on an entity is over when its transaction is. -/
theorem settles_writeOn (operation : String) (e : ε)
    {w : Work (ε × Session (Recorded Event σ)) α} (h : Stays Prod.snd w) :
    Settles (fun _ => True) late (onCopy e (dao.writeOn operation w)) := by
  have hmapped : Stays Prod.snd (w.mapError (.inOperation operation)) :=
    h.mapError fun _ _ _ => trivial
  rw [writeOn, on]
  exact .onCopy_transactionOn db hmapped fun _ _ _ _ => trivial

/-- An insertion that succeeds settles what it wrote. -/
theorem settles_insert (hooks : dao.HooksStay) (e : ε) :
    Settles (fun _ => True) late (onCopy e dao.insert) :=
  settles_writeOn on "insertion" e
    (stays_saving hooks hooks.beforeInsert hooks.afterInsert (stays_insertRow on))

/-- Without an identity there is no transaction at all. -/
theorem settles_update (hooks : dao.HooksStay) (e : ε) :
    Settles (fun _ => True) late (onCopy e dao.update) := by
  refine .onCopy_get_bind fun _ => .onCopy_ofResult_bind fun id => ?_
  exact settles_writeOn on "update" e
    (stays_saving hooks hooks.beforeUpdate hooks.afterUpdate (stays_updateRow on id))

/-- So does a save, which is one or the other. -/
theorem settles_save (hooks : dao.HooksStay) (e : ε) :
    Settles (fun _ => True) late (onCopy e dao.save) := by
  refine .onCopy_get_bind fun _ => ?_
  dsimp only
  split
  · exact settles_insert on hooks e
  · exact settles_update on hooks e

/-- The rows that are kept are counted. -/
theorem settles_updateFields (fields : List (String × Value)) (criteria : Criteria ι) :
    Settles (fun rows => rows ≠ 0) late (dao.updateFields fields criteria) := by
  refine .ofResult_bind fun bound => ?_
  split
  · exact .ofResult (.error _)
  · have hcounts := counts_execute db (criteria.rowSelection.update dao.model.schema bound)
    rw [← on] at hcounts
    exact settles_write on "update" hcounts fun rows events h hwrote => h rows rfl hwrote

/-- So does a deletion with its hooks. -/
theorem settles_deleting (hooks : dao.HooksStay) (criteria : Criteria ι)
    {w : Work (Session (Recorded Event σ)) UInt64} (h : Stays id w) :
    Settles (fun _ => True) late (dao.deleting criteria w) :=
  settles_write on "deletion" (stays_deleting hooks criteria h) fun _ _ _ _ => trivial

/-- If a deletion succeeds and something was written, some rows were
deleted, unless hooks wrote. -/
theorem settles_deleteByCriteria (hooks : dao.HooksStay) (criteria : Criteria ι) :
    Settles (fun rows => dao.QuietDeletes → rows ≠ 0) late (dao.deleteByCriteria criteria) := by
  have hcounts := counts_execute db (criteria.rowSelection.delete dao.model.schema)
  rw [← on] at hcounts
  by_cases hquiet : dao.QuietDeletes
  · exact settles_write on "deletion" (counts_deleting hquiet criteria hcounts)
      fun rows events h hwrote _ => h rows rfl hwrote
  · have hstays := hcounts.mono (Q := fun _ _ => True) fun _ _ _ => trivial
    refine (settles_deleting on hooks criteria hstays).mono (fun rows _ h => ?_) fun _ => id
    exact absurd h hquiet

/-- The statement for the roots is made before the unit, in which nothing
else settles. -/
theorem settles_deleteCascadeByCriteria [DecidableEq ι] (hooks : dao.HooksStay)
    (criteria : Criteria ι) :
    Settles (fun _ => True) late (onCopy criteria dao.deleteCascadeByCriteria) := by
  refine .onCopy_onSubject_bind fun select criteria => .onCopy_ofResult_bind fun select => ?_
  refine .onCopy_get_bind fun _ => ?_
  exact settles_deleting on hooks criteria (stays_deleteCascadeRows on select)

end

/-- No rows are an error, for which it is too late to undo anything. -/
theorem settles_some? {Q : UInt64 → Prop} {late : Error → Prop} {operation : String}
    {w : Work (Session (Recorded Event σ)) UInt64} (h : Settles Q late w)
    (hlate : Q 0 → late (.noRecordAffected operation)) :
    Settles (fun _ => True) late (w >>= fun rows => Work.ofResult (some? operation rows)) := by
  refine h.bind_ofResult fun rows hrows => ?_
  by_cases hzero : rows = 0
  · subst hzero
    exact Or.inr ⟨_, rfl, hlate hrows⟩
  · exact Or.inl ⟨(), if_neg hzero, trivial⟩

/-- Every write settles what it wrote, but for the errors that it finds
when it is over. -/
theorem Write.settles {db : Database σ} (on : dao.db = db.recorded) (hooks : dao.HooksStay)
    {late : Error → Prop} {w : Work (Session (Recorded Event σ)) α} (hw : dao.Write late w) :
    Settles (fun _ => True) late w := by
  have hfields (fields : List (String × Value)) (criteria : Criteria ι) :
      Settles (fun _ => True) (fun _ => False) (dao.updateFields fields criteria) :=
    (settles_updateFields on fields criteria).mono (fun _ _ => trivial) fun _ => id
  have hdelete (criteria : Criteria ι) :
      Settles (fun _ => True) (fun _ => False) (dao.deleteByCriteria criteria) :=
    (settles_deleteByCriteria on hooks criteria).mono (fun _ _ => trivial) fun _ => id
  have hdeleteById (id : Int64) :
      Settles (fun _ => True) (fun e => e = .noRecordAffected "deleted" ∧ ¬ dao.QuietDeletes)
        (dao.deleteById id) := by
    refine .ofResult_bind fun criteria => ?_
    exact settles_some? (settles_deleteByCriteria on hooks criteria) fun h =>
      ⟨rfl, fun hquiet => h hquiet rfl⟩
  have hcascadeById [DecidableEq ι] (id : Int64) :
      Settles (fun _ => True) (fun e => e = .noRecordAffected "deleted")
        (dao.deleteCascadeById id) := by
    refine .ofResult_bind fun criteria => ?_
    exact settles_some? (settles_deleteCascadeByCriteria on hooks criteria) fun _ => rfl
  -- By the kind of the write; those by an identity look at the number of rows when
  -- all is over.
  cases hw with
  | insert e => exact settles_insert on hooks e
  | update e => exact settles_update on hooks e
  | save e => exact settles_save on hooks e
  | updateFields fields criteria => exact hfields fields criteria
  | updateAll fields => exact hfields fields _
  | updateById id fields =>
      refine .ofResult_bind fun criteria => ?_
      exact settles_some? (settles_updateFields on fields criteria) fun h => h rfl
  | updateByCondition fields template values =>
      exact .ofResult_bind fun criteria => hfields fields criteria
  | deleteByCriteria criteria => exact hdelete criteria
  | deleteByCondition template values => exact .ofResult_bind hdelete
  | deleteAll => exact hdelete _
  | deleteById id => exact hdeleteById id
  | delete e => exact .ofResult_bind hdeleteById
  | deleteCascadeByCriteria criteria => exact settles_deleteCascadeByCriteria on hooks criteria
  | deleteCascadeById id => exact hcascadeById id
  | deleteCascade e => exact .ofResult_bind hcascadeById

end Dao

/-! ### Writes that fail -/

namespace Database

/-- The writes that are made where no unit is open, each with the errors of
its own that it finds when its transaction is over, and of which nothing is
said. -/
inductive Write (db : Database σ) :
    (Error → Prop) → {α : Type} → Work (Session (Recorded Event σ)) α → Prop where
  /-- A statement written by hand. -/
  | run (sql : Sql) : db.Write (fun _ => False) (db.recorded.run sql)
  /-- A transaction, in which the unit stays open. -/
  | transaction {α : Type} {w : Work (Session (Recorded Event σ)) α} (inside : Stays id w) :
      db.Write (fun _ => False) (db.recorded.transaction w)
  /-- An operation of a `Dao`, whose hooks leave the unit open. -/
  | operation {ι ε α : Type} (dao : Dao (Recorded Event σ) ι ε) (on : dao.db = db.recorded)
      (hooks : dao.HooksStay) {late : Error → Prop} {w : Work (Session (Recorded Event σ)) α}
      (hw : dao.Write late w) : db.Write late w

/-- So does every write of the database itself. -/
theorem Write.settles {db : Database σ} {late : Error → Prop}
    {w : Work (Session (Recorded Event σ)) α} (hw : db.Write late w) :
    Settles (fun _ => True) late w := by
  cases hw with
  | run sql =>
      refine Settles.transaction db (P := fun _ _ => True) ?_ fun _ _ _ _ => trivial
      have hsent := (Inside.execute db (raw sql)).mapError (f := .inOperation "raw execution")
        (Q := fun _ _ => True) fun _ _ _ => trivial
      exact Stays.bind hsent fun _ => .pure trivial
  | transaction inside => exact .transaction db inside fun _ _ _ _ => trivial
  | operation dao on hooks hw => exact hw.settles on hooks

/-- A write that fails persists nothing, whatever went wrong, unless its
connection was not taken back when all was committed already. Of the errors
that an operation finds when it is over nothing is said. -/
theorem Write.run_failed {db : Database σ} {late : Error → Prop}
    {w : Work (Session (Recorded Event σ)) α} (hw : db.Write late w)
    {s s' : Session (Recorded Event σ)} (hs : s.units = {}) {e : Error}
    (hrun : w.exec s = (.error e, s')) :
    ∃ events, s'.world.log = s.world.log ++ events ∧
      (Persists events → late e ∨ Unreleased e events) := by
  obtain ⟨events, hlog, houtcome⟩ := hw.settles s hs
  rw [hrun] at hlog houtcome
  refine ⟨events, hlog, fun hkept => ?_⟩
  rcases houtcome hkept with ⟨a, ha, -⟩ | ⟨e', he, hcase⟩
  · cases ha
  · cases he
    exact hcase

/-! #### Writes of people -/

/-- Access to people, with hooks of its own. -/
def hookedDao (hooks : Interceptor (Recorded Event Script) Unit (Option Int64)) :
    Dao (Recorded Event Script) Unit (Option Int64) :=
  { Program.peopleDao with hooks := hooks }

/-- When one was inserted all are deleted, and then the insertion fails. -/
def undoing : Interceptor (Recorded Event Script) Unit (Option Int64) where
  afterInsert _ _ := do
    let _ ← Program.peopleDao.deleteAll
    Work.fail .missingPrimaryKey

/-- The hook deletes in a unit of its own, which is a nested one. -/
theorem trees_undoing : (hookedDao undoing).HookTrees where
  beforeSave := .pure _
  afterSave _ _ := .pure _
  beforeInsert := .pure _
  afterInsert _ _ := by
    -- A program on the database, though it opens a unit.
    have hdelete : IsProgram Program.peopleDao.db Program.peopleDao.deleteAll :=
      Dao.isProgram_deleteByCriteria (.of_none rfl) _
    exact hdelete.bind fun _ => .fail _
  beforeUpdate := .pure _
  afterUpdate _ _ := .pure _
  beforeDelete _ := .pure _
  afterDelete _ _ := .pure _
  beforeLoad _ := .pure _
  afterLoad _ _ := .pure _

/-- The nested transaction succeeded, and the insertion did not: what both
wrote is not kept. -/
theorem Write.run_failed_undoing :
    ∃ s', (Dao.onCopy none (hookedDao undoing).insert).exec (.start ⟨[], {}⟩)
        = (.error .missingPrimaryKey, s') ∧
      (∃ e ∈ s'.world.log, e.Wrote) ∧ ¬ Persists s'.world.log := by
  rcases hrun : (Dao.onCopy none (hookedDao undoing).insert).exec (.start ⟨[], {}⟩) with ⟨r, s'⟩
  have hresult : ((Dao.onCopy none (hookedDao undoing).insert).exec (.start ⟨[], {}⟩)).1
      = .error .missingPrimaryKey := by rfl
  have hwrote : ∃ e ∈ ((Dao.onCopy none (hookedDao undoing).insert).exec
      (.start ⟨[], {}⟩)).2.world.log, e.wroteOn?.isSome := by decide +kernel
  rw [hrun] at hresult hwrote
  subst hresult
  have hwrite : Write Program.scripted _ _ :=
    .operation (hookedDao undoing) rfl (trees_undoing.stay rfl) (.insert none)
  obtain ⟨events, hlog, hkept⟩ := hwrite.run_failed rfl hrun
  obtain rfl : s'.world.log = events := hlog
  refine ⟨s', rfl, hwrote, fun h => ?_⟩
  -- The error is not that of a connection.
  rcases hkept h with h | ⟨c, reason, earlier, h, -⟩
  · exact h
  · cases h

/-- The write fails, and rows that it wrote are kept, if the source follows
the script. -/
def FailsAndKeeps {α : Type} (w : Work (Session (Recorded Event Script)) α)
    (script : Script) : Prop :=
  (w.exec (.start ⟨[], script⟩)).1.isOk = false ∧
    Persists (w.exec (.start ⟨[], script⟩)).2.world.log

instance {α : Type} (w : Work (Session (Recorded Event Script)) α) (script : Script) :
    Decidable (FailsAndKeeps w script) :=
  inferInstanceAs (Decidable (_ ∧ _))

/-- A hook that ends the transaction it is run in. -/
def hasty : Interceptor (Recorded Event Script) Unit (Option Int64) where
  afterInsert _ _ := Program.scripted.recorded.closeTransaction true

/-- A hook that inserts someone before others are deleted. -/
def replacing : Interceptor (Recorded Event Script) Unit (Option Int64) where
  beforeDelete _ := Dao.onCopy none Program.peopleDao.insert

/-- Access to people, on whom other people depend. -/
def bossDao : Dao (Recorded Event Script) Unit (Option Int64) :=
  { Program.peopleDao with
    model := { Program.peopleModel with
      schema := fun k => { Criteria.people k with dependents := [()] } } }

/-- Rows are kept of writes that fail: if the connection is not taken back
after the commit; if a hook commits, and the closing then finds no unit; if
nothing was deleted by its identity, but a hook wrote; and if no root was
deleted, but its dependents were. -/
theorem Write.run_failed_kept :
    FailsAndKeeps (Dao.onCopy none Program.peopleDao.insert)
        { release := [.error .missingPrimaryKey] } ∧
      FailsAndKeeps (Dao.onCopy none (hookedDao hasty).insert) {} ∧
      FailsAndKeeps ((hookedDao replacing).deleteById 1)
        { execute := [.ok ⟨1, some 2⟩, .ok ⟨0, none⟩] } ∧
      FailsAndKeeps (bossDao.deleteCascadeById 1)
        { execute := [.ok ⟨1, none⟩, .ok ⟨1, none⟩, .ok ⟨0, none⟩],
          fetch := [.ok [⟨[("id", .int64 1)]⟩]] } := by
  decide +kernel

end Database

end DataAccess
