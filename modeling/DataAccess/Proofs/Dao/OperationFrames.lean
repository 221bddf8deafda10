import DataAccess.Proofs.Dao.OperationTree
import DataAccess.Proofs.Dao.Reads

/-!
# `DataAccess.Proofs.Dao.OperationFrames`: the units of an operation

`Dao.Operation` lists the operations of a `Dao`, and `Operation.work` is
what each of them does. `Operation.frames` says which units an operation
opens when no other one is open: a read has a unit without a transaction, a
write one with a transaction of the isolation that is set, and in either
the unit's own outcome is that of what the operation does between its
opening and its closing. What makes of the outcome an error afterwards,
because no row was there to be deleted, say, is not in the unit any more.

An operation that is refused before it opens anything has no unit: names
that are not there, a condition that cannot be read, an entity without an
identity, nothing to be updated. A page has a unit for its rows and,
unless their total is known or there are none, another one for their
count.

`Operation.balanced`: the units of an operation are these, with one block
each, whatever the source answers.
-/

set_option autoImplicit false

namespace DataAccess

variable {σ ι ε τ α : Type}

namespace Dao

/-! ### Operations -/

/-- The operations on the entities of a type. An operation on an entity or
a criteria is given it, and gives it back with its outcome. -/
inductive Operation (ι ε : Type) : Type → Type 1 where
  | loadByCriteria (criteria : Criteria ι) : Operation ι ε (Result (Option ε) × Criteria ι)
  | loadById (id : Int64) : Operation ι ε (Option ε)
  | loadByCondition (template : String) (values : List Value) : Operation ι ε (Option ε)
  | findByCriteria (criteria : Criteria ι) : Operation ι ε (List ε)
  | findAll : Operation ι ε (List ε)
  | findByCondition (template : String) (values : List Value) : Operation ι ε (List ε)
  | findPage (criteria : Criteria ι) : Operation ι ε (Result (Page ε) × Criteria ι)
  | countByCriteria (criteria : Criteria ι) : Operation ι ε (Result UInt64 × Criteria ι)
  | countAll : Operation ι ε UInt64
  | countByCondition (template : String) (values : List Value) : Operation ι ε UInt64
  | existsByCriteria (criteria : Criteria ι) : Operation ι ε (Result Bool × Criteria ι)
  | existsAny : Operation ι ε Bool
  | existsById (id : Int64) : Operation ι ε Bool
  | existsByCondition (template : String) (values : List Value) : Operation ι ε Bool
  | project (criteria : Criteria ι) (names : List String) :
      Operation ι ε (Result (Option (List Value)) × Criteria ι)
  | projectOne (criteria : Criteria ι) (α : Type) [FromValue α] (name : String) :
      Operation ι ε (Result (Option α) × Criteria ι)
  | insert (e : ε) : Operation ι ε (Result Unit × ε)
  | update (e : ε) : Operation ι ε (Result Unit × ε)
  | save (e : ε) : Operation ι ε (Result Unit × ε)
  | updateFields (fields : List (String × Value)) (criteria : Criteria ι) :
      Operation ι ε UInt64
  | updateAll (fields : List (String × Value)) : Operation ι ε UInt64
  | updateById (id : Int64) (fields : List (String × Value)) : Operation ι ε Unit
  | updateByCondition (fields : List (String × Value)) (template : String)
      (values : List Value) : Operation ι ε UInt64
  | deleteByCriteria (criteria : Criteria ι) : Operation ι ε UInt64
  | deleteById (id : Int64) : Operation ι ε Unit
  | delete (e : ε) : Operation ι ε Unit
  | deleteByCondition (template : String) (values : List Value) : Operation ι ε UInt64
  | deleteAll : Operation ι ε UInt64
  | deleteCascadeByCriteria [DecidableEq ι] (criteria : Criteria ι) :
      Operation ι ε (Result UInt64 × Criteria ι)
  | deleteCascadeById [DecidableEq ι] (id : Int64) : Operation ι ε Unit
  | deleteCascade [DecidableEq ι] (e : ε) : Operation ι ε Unit

namespace Operation

/-- What an operation does. -/
def work (dao : Dao σ ι ε) {α : Type} : Operation ι ε α → Work (Session σ) α
  | .loadByCriteria criteria => carrying criteria dao.loadByCriteria
  | .loadById id => dao.loadById id
  | .loadByCondition template values => dao.loadByCondition template values
  | .findByCriteria criteria => dao.findByCriteria criteria
  | .findAll => dao.findAll
  | .findByCondition template values => dao.findByCondition template values
  | .findPage criteria => carrying criteria dao.findPage
  | .countByCriteria criteria => carrying criteria dao.countByCriteria
  | .countAll => dao.countAll
  | .countByCondition template values => dao.countByCondition template values
  | .existsByCriteria criteria => carrying criteria dao.existsByCriteria
  | .existsAny => dao.existsAny
  | .existsById id => dao.existsById id
  | .existsByCondition template values => dao.existsByCondition template values
  | .project criteria names => carrying criteria (dao.project names)
  | @projectOne _ _ criteria α _ name => carrying criteria (dao.projectOne α name)
  | .insert e => carrying e dao.insert
  | .update e => carrying e dao.update
  | .save e => carrying e dao.save
  | .updateFields fields criteria => dao.updateFields fields criteria
  | .updateAll fields => dao.updateAll fields
  | .updateById id fields => dao.updateById id fields
  | .updateByCondition fields template values => dao.updateByCondition fields template values
  | .deleteByCriteria criteria => dao.deleteByCriteria criteria
  | .deleteById id => dao.deleteById id
  | .delete e => dao.delete e
  | .deleteByCondition template values => dao.deleteByCondition template values
  | .deleteAll => dao.deleteAll
  | @deleteCascadeByCriteria _ _ _ criteria => carrying criteria dao.deleteCascadeByCriteria
  | @deleteCascadeById _ _ _ id => dao.deleteCascadeById id
  | @deleteCascade _ _ _ e => dao.deleteCascade e

/-- Every operation is a tree of units, if its hooks are. -/
theorem isProgram {dao : Dao σ ι ε} (hooks : dao.HookTrees) (op : Operation ι ε α) :
    IsProgram dao.db (op.work dao) := by
  -- A criteria for an identity or a condition may be refused, before any unit.
  have onCriteria {α : Type} {w : Work (Criteria ι × Session σ) α} (hw : IsTree dao.db w)
      (r : Result (Criteria ι)) :
      IsProgram dao.db (Work.ofResult r >>= fun criteria => Dao.onCopy criteria w) :=
    (IsProgram.ofResult r).bind fun criteria => .onCopy criteria hw
  cases op <;> rw [work]
  case loadByCriteria criteria => exact .carrying criteria (isTree_loadByCriteria hooks)
  case loadById id => exact onCriteria (isTree_loadByCriteria hooks) _
  case loadByCondition template values => exact onCriteria (isTree_loadByCriteria hooks) _
  case findByCriteria criteria => exact isProgram_findByCriteria hooks criteria
  case findAll => exact isProgram_findByCriteria hooks _
  case findByCondition template values =>
    exact (IsProgram.ofResult _).bind fun criteria => isProgram_findByCriteria hooks criteria
  case findPage criteria => exact .carrying criteria (isTree_findPage hooks)
  case countByCriteria criteria => exact .carrying criteria isTree_countByCriteria
  case countAll => exact .onCopy _ isTree_countByCriteria
  case countByCondition template values => exact onCriteria isTree_countByCriteria _
  case existsByCriteria criteria => exact .carrying criteria isTree_existsByCriteria
  case existsAny => exact .onCopy _ isTree_existsByCriteria
  case existsById id => exact onCriteria isTree_existsByCriteria _
  case existsByCondition template values => exact onCriteria isTree_existsByCriteria _
  case project criteria names => exact .carrying criteria (isTree_project names)
  case projectOne criteria α _ name => exact .carrying criteria (isTree_projectOne name)
  case insert e => exact .carrying e (isTree_insert hooks)
  case update e => exact .carrying e (isTree_update hooks)
  case save e => exact .carrying e (isTree_save hooks)
  case updateFields fields criteria => exact isProgram_updateFields fields criteria
  case updateAll fields => exact isProgram_updateFields fields _
  case updateById id fields => exact isProgram_updateById id fields
  case updateByCondition fields template values =>
    exact (IsProgram.ofResult _).bind fun criteria => isProgram_updateFields fields criteria
  case deleteByCriteria criteria => exact isProgram_deleteByCriteria hooks criteria
  case deleteById id => exact isProgram_deleteById hooks id
  case delete e => exact (IsProgram.ofResult _).bind fun id => isProgram_deleteById hooks id
  case deleteByCondition template values =>
    exact (IsProgram.ofResult _).bind fun criteria => isProgram_deleteByCriteria hooks criteria
  case deleteAll => exact isProgram_deleteByCriteria hooks _
  case deleteCascadeByCriteria criteria =>
    exact .carrying criteria (isTree_deleteCascadeByCriteria hooks)
  case deleteCascadeById id => exact isProgram_deleteCascadeById hooks id
  case deleteCascade e =>
    exact (IsProgram.ofResult _).bind fun id => isProgram_deleteCascadeById hooks id

end Operation

/-! ### Units -/

section Frames
variable (dao : Dao σ ι ε) (c : Criteria ι) (s : Session σ)

/-- The unit of a read: it has no transaction. -/
def reading (w : Work (Session σ) α) : Frame :=
  .of dao.db none (fun s => (w.exec s).1) s

/-- The unit of a write: its transaction is of the isolation that is set. -/
def writing (w : Work (Session σ) α) : Frame :=
  .of dao.db (some dao.db.settings.isolation) (fun s => (w.exec s).1) s

/-- The units that something has that may have been refused before. -/
def given (r : Result τ) (frames : τ → List Frame) : List Frame :=
  match r with
  | .ok t => frames t
  | .error _ => []

/-- A load is the read of one row. -/
def loadFrames : List Frame :=
  [dao.reading s
    (dao.fetchHooked c ((c.suspendLimits.setLimit (some 1)).find dao.model.schema))]

/-- A find is the read of its rows. -/
def findFrames : List Frame :=
  [dao.reading s (dao.fetchHooked c (c.find dao.model.schema))]

/-- A count is the read of its number, without limits. -/
def countFrames : List Frame :=
  [dao.reading s (dao.fetchCount (c.suspendLimits.count dao.model.schema))]

/-- A look for rows is the read of one. -/
def existFrames : List Frame :=
  [dao.reading s (dao.db.fetch ((c.suspendLimits.setLimit (some 1)).exist dao.model.schema))]

/-- The rows of a page are counted after they were found, if there are any
and their total is not known. -/
def pageFrames : List Frame :=
  given (pagingOf c) fun paging =>
    match (dao.findByCriteria c).exec s with
    | (.error _, _) => dao.findFrames c s
    | (.ok items, t) =>
      if items.isEmpty || paging.isTotalKnown then dao.findFrames c s
      else dao.findFrames c s ++ dao.countFrames c t

/-- The names are resolved before there is a unit. -/
def projectFrames (names : List String) : List Frame :=
  match (names.mapM (Criteria.resolveField dao.model.schema)).exec c with
  | (.error _, _) => []
  | (.ok columns, c) =>
    [dao.reading s
      (dao.db.fetch ((c.suspendLimits.setLimit (some 1)).project dao.model.schema columns))]

/-- An insertion writes on a copy of the entity, between its hooks. -/
def insertFrames (e : ε) : List Frame :=
  [dao.writing s
    (onCopy e (dao.saving dao.hooks.beforeInsert dao.hooks.afterInsert dao.insertRow))]

/-- An entity without an identity is not updated. -/
def updateFrames (e : ε) : List Frame :=
  given (dao.idOf e) fun id =>
    [dao.writing s
      (onCopy e (dao.saving dao.hooks.beforeUpdate dao.hooks.afterUpdate (dao.updateRow id)))]

/-- A new entity is inserted, and any other one updated. -/
def saveFrames (e : ε) : List Frame :=
  if dao.model.isNew e then dao.insertFrames s e else dao.updateFrames s e

/-- Nothing to be updated needs no unit. -/
def updateFieldsFrames (fields : List (String × Value)) : List Frame :=
  given (dao.bindFields fields) fun bound =>
    if bound.isEmpty then []
    else [dao.writing s (dao.db.execute (c.rowSelection.update dao.model.schema bound))]

/-- The unit of a deletion has the hooks in it. -/
def deletingFrames (w : Work (Session σ) UInt64) : List Frame :=
  [dao.writing s (Work.enclosed (dao.hooks.beforeDelete c) (dao.hooks.afterDelete c) w)]

/-- A deletion sends one statement. -/
def deleteFrames : List Frame :=
  dao.deletingFrames c s do
    let written ← dao.db.execute (c.rowSelection.delete dao.model.schema)
    return written.rows

/-- A cascade has one unit, with the reads in it, if it can be asked for roots. -/
def cascadeFrames [DecidableEq ι] : List Frame :=
  given (dao.selectIds c.suspendLimits) fun select =>
    dao.deletingFrames c s (dao.deleteCascadeRows select)

/-- The units of an operation that is run from `s`, where no unit is open. -/
def Operation.frames {α : Type} : Operation ι ε α → List Frame
  | .loadByCriteria criteria => dao.loadFrames criteria s
  | .loadById id => given (dao.idCriteria id) (dao.loadFrames · s)
  | .loadByCondition template values =>
    given (dao.conditionCriteria template values) (dao.loadFrames · s)
  | .findByCriteria criteria => dao.findFrames criteria s
  | .findAll => dao.findFrames dao.criteria s
  | .findByCondition template values =>
    given (dao.conditionCriteria template values) (dao.findFrames · s)
  | .findPage criteria => dao.pageFrames criteria s
  | .countByCriteria criteria => dao.countFrames criteria s
  | .countAll => dao.countFrames dao.criteria s
  | .countByCondition template values =>
    given (dao.conditionCriteria template values) (dao.countFrames · s)
  | .existsByCriteria criteria => dao.existFrames criteria s
  | .existsAny => dao.existFrames dao.criteria s
  | .existsById id => given (dao.idCriteria id) (dao.existFrames · s)
  | .existsByCondition template values =>
    given (dao.conditionCriteria template values) (dao.existFrames · s)
  | .project criteria names => dao.projectFrames criteria s names
  | @projectOne _ _ criteria _ _ name => dao.projectFrames criteria s [name]
  | .insert e => dao.insertFrames s e
  | .update e => dao.updateFrames s e
  | .save e => dao.saveFrames s e
  | .updateFields fields criteria => dao.updateFieldsFrames criteria s fields
  | .updateAll fields => dao.updateFieldsFrames dao.criteria s fields
  | .updateById id fields =>
    given (dao.idCriteria id) (dao.updateFieldsFrames · s fields)
  | .updateByCondition fields template values =>
    given (dao.conditionCriteria template values) (dao.updateFieldsFrames · s fields)
  | .deleteByCriteria criteria => dao.deleteFrames criteria s
  | .deleteById id => given (dao.idCriteria id) (dao.deleteFrames · s)
  | .delete e =>
    given (dao.idOf e) fun id => given (dao.idCriteria id) (dao.deleteFrames · s)
  | .deleteByCondition template values =>
    given (dao.conditionCriteria template values) (dao.deleteFrames · s)
  | .deleteAll => dao.deleteFrames dao.criteria s
  | @deleteCascadeByCriteria _ _ _ criteria => dao.cascadeFrames criteria s
  | @deleteCascadeById _ _ _ id => given (dao.idCriteria id) (dao.cascadeFrames · s)
  | @deleteCascade _ _ _ e =>
    given (dao.idOf e) fun id => given (dao.idCriteria id) (dao.cascadeFrames · s)

end Frames

/-! ### What the units ask of the source -/

/-- A write on an entity that is given it runs as a write on the session. -/
theorem onCopy_writeOn (dao : Dao σ ι ε) (operation : String) (e : ε)
    (w : Work (ε × Session σ) α) :
    onCopy e (dao.db.transactionOn (w.mapError (.inOperation operation)))
      = dao.write operation (onCopy e w) := by
  have hmapped : onCopy e (w.mapError (.inOperation operation))
      = (onCopy e w).mapError (.inOperation operation) := by
    apply Work.ext
    intro s
    rw [onCopy, Work.exec_of, Work.exec_mapError, Work.exec_mapError]
    rfl
  rw [onCopy_transactionOn, hmapped, write]

section Balanced
variable {db : Database σ} {dao : Dao (Recorded Event σ) ι ε} {c : Criteria ι}
  {s : Session (Recorded Event σ)}

/-- What was refused has no units. -/
theorem balanced_given {r : Result τ} {frames : τ → List Frame}
    {w : τ → Work (Session (Recorded Event σ)) α} (hs : s.units = {})
    (h : ∀ t, r = .ok t → Balanced (frames t) s ((w t).exec s).2) :
    Balanced (given r frames) s ((Work.ofResult r >>= w).exec s).2 := by
  cases r with
  | error e => exact .nil hs
  | ok t => exact h t rfl

/-- What is made of an outcome afterwards does not matter to the units. -/
theorem balanced_then {frames : List Frame} {w : Work (Session (Recorded Event σ)) α}
    {f : α → Work (Session (Recorded Event σ)) τ} (hf : ∀ a t, ((f a).exec t).2 = t)
    (h : Balanced frames s (w.exec s).2) : Balanced frames s ((w >>= f).exec s).2 := by
  rw [Work.exec_bind]
  rcases hrun : w.exec s with ⟨_ | a, t⟩
  · rwa [hrun] at h
  · rw [hrun] at h
    rwa [hf a t]

/-- Work on a copy of a subject asks for what it does with the subject
beside it. -/
theorem balanced_onCopy {frames : List Frame} {subject : τ}
    {w : Work (τ × Session (Recorded Event σ)) α}
    (h : Balanced frames s (w.exec (subject, s)).2.2) :
    Balanced frames s ((onCopy subject w).exec s).2 :=
  h

/-- Work that gives its subject back asks for what it does with the subject
beside it. -/
theorem balanced_carrying {frames : List Frame} {subject : τ}
    {w : Work (τ × Session (Recorded Event σ)) α}
    (h : Balanced frames s (w.exec (subject, s)).2.2) :
    Balanced frames s ((carrying subject w).exec s).2 :=
  h

section
variable (on : dao.db = db.recorded) (hs : s.units = {})
include on hs

/-- A read is one frame with no transaction. The name of the operation in
an error does not decide how it ends. -/
theorem balanced_read (operation : String) {w : Work (Session (Recorded Event σ)) α}
    (hw : IsProgram dao.db w) :
    Balanced [dao.reading s w] s ((dao.read operation w).exec s).2 := by
  have hmapped := hw.mapError (.inOperation operation)
  rw [on] at hmapped
  rw [reading, read, on, ← Frame.of_congr (Work.isOk_mapError (.inOperation operation) w)]
  exact hmapped.balanced none hs

/-- A write is one frame with a transaction of the isolation that is set. -/
theorem balanced_write (operation : String) {w : Work (Session (Recorded Event σ)) α}
    (hw : IsProgram dao.db w) :
    Balanced [dao.writing s w] s ((dao.write operation w).exec s).2 := by
  have hmapped := hw.mapError (.inOperation operation)
  rw [on] at hmapped
  rw [writing, write, on, ← Frame.of_congr (Work.isOk_mapError (.inOperation operation) w)]
  exact hmapped.balanced (some _) hs

/-- A write on an entity is the same as one on a copy of it. -/
theorem balanced_writeOn (operation : String) (e : ε)
    {w : Work (ε × Session (Recorded Event σ)) α} (hw : IsTree dao.db w) :
    Balanced [dao.writing s (onCopy e w)] s ((dao.writeOn operation w).exec (e, s)).2.2 := by
  have hwrite := balanced_write on hs operation (IsProgram.onCopy e hw)
  rw [← onCopy_writeOn] at hwrite
  exact hwrite

/-! #### Reads -/

/-- A look for rows is the read of its statement. -/
theorem balanced_existsByCriteria :
    Balanced (dao.existFrames c s) s (dao.existsByCriteria.exec (c, s)).2.2 := by
  rw [existsByCriteria_exec, exec_onSession, existing, existFrames, reading]
  have hread := balanced_read on hs "exists" (w := do
    let rows ← dao.db.fetch ((c.suspendLimits.setLimit (some 1)).exist dao.model.schema)
    return !rows.isEmpty) ((IsProgram.fetch _).bind fun rows => .pure _)
  rwa [reading, Frame.of_congr (Work.isOk_bind_pure _ _)] at hread

/-- A count asks for what its frames do. -/
theorem balanced_countByCriteria :
    Balanced (dao.countFrames c s) s (dao.countByCriteria.exec (c, s)).2.2 := by
  rw [countByCriteria_exec]
  exact balanced_read on hs "count" (isProgram_fetchCount _)

/-- Columns are read in one frame, if their names can be resolved. -/
theorem balanced_project (names : List String) :
    Balanced (dao.projectFrames c s names) s ((dao.project names).exec (c, s)).2.2 := by
  rw [project, projectFrames]
  rcases hresolved : (names.mapM (Criteria.resolveField dao.model.schema)).exec c
    with ⟨e | columns, c'⟩
  · -- A name that is not there is refused before there is a unit.
    have hsubject : (Database.onSubject (names.mapM (Criteria.resolveField dao.model.schema))).exec
        (c, s) = (.error e, (c', s)) := by
      rw [Database.onSubject, Work.exec_within, hresolved]
    rw [Work.exec_bind_error hsubject]
    exact .nil hs
  -- The criteria keeps the joins of its columns, and the read does not look at it.
  · have hsubject : (Database.onSubject (names.mapM (Criteria.resolveField dao.model.schema))).exec
        (c, s) = (.ok columns, (c', s)) := by
      rw [Database.onSubject, Work.exec_within, hresolved]
    rw [Work.exec_bind_ok hsubject, Work.exec_bind_ok (exec_limitedTo c' s _ _), exec_onSession]
    have hread := balanced_read on hs "get" (w := do
      let rows ← dao.db.fetch
        ((c'.suspendLimits.setLimit (some 1)).project dao.model.schema columns)
      return rows.head?.map (·.values)) ((IsProgram.fetch _).bind fun rows => .pure _)
    rwa [reading, Frame.of_congr (Work.isOk_bind_pure _ _)] at hread

/-- The value of a single column is taken out of the row after the read. -/
theorem balanced_projectOne [FromValue α] (name : String) :
    Balanced (dao.projectFrames c s [name]) s ((dao.projectOne α name).exec (c, s)).2.2 := by
  have hproject := balanced_project (c := c) on hs [name]
  rw [projectOne, Work.exec_bind]
  rcases hrun : (dao.project [name]).exec (c, s) with ⟨_ | a, t⟩ <;> rw [hrun] at hproject
  · exact hproject
  · exact hproject

section
variable (hooks : dao.HookTrees)
include hooks

/-- A load takes the first entity after the read. -/
theorem balanced_loadByCriteria :
    Balanced (dao.loadFrames c s) s (dao.loadByCriteria.exec (c, s)).2.2 := by
  rw [loadByCriteria_exec, exec_onSession, loading]
  exact balanced_then (fun _ _ => rfl)
    (balanced_read on hs "load" (isProgram_fetchHooked hooks c _))

/-- A find is the read of its rows, with the hooks inside. -/
theorem balanced_findByCriteria :
    Balanced (dao.findFrames c s) s ((dao.findByCriteria c).exec s).2 :=
  balanced_read on hs "find" (isProgram_fetchHooked hooks c _)

/-- The count of a page is a unit after that of its rows. -/
theorem balanced_findPage :
    Balanced (dao.pageFrames c s) s (dao.findPage.exec (c, s)).2.2 := by
  rw [pageFrames, pagingOf]
  cases hpaging : c.paging with
  | none =>
      rw [findPage_unpaged dao c s hpaging]
      exact .nil hs
  | some paging =>
      have hfind := balanced_findByCriteria (c := c) on hs hooks
      dsimp only [given]
      rcases hfound : (dao.findByCriteria c).exec s with ⟨e | items, t⟩ <;> rw [hfound] at hfind
      -- The rows could not be read, and are not counted.
      · rw [findPage_unfound dao hpaging hfound]
        exact hfind
      dsimp only
      by_cases hdone : (items.isEmpty || paging.isTotalKnown) = true
      -- There is nothing to be counted.
      · rw [if_pos hdone, findPage_uncounted dao hpaging hfound hdone]
        exact hfind
      · rw [if_neg hdone]
        have hcount : (items.isEmpty || paging.isTotalKnown) = false :=
          Bool.eq_false_iff.mpr hdone
        -- The count is a unit of its own: none is open after the find.
        have hcounted : Balanced (dao.countFrames c t) t ((dao.counting c).exec t).2 :=
          balanced_read on hfind.closed "count" (isProgram_fetchCount _)
        refine hfind.append ?_
        rcases htotal : (dao.counting c).exec t with ⟨e | total, u⟩ <;> rw [htotal] at hcounted
        · rw [findPage_unsettled dao hpaging hfound hcount htotal]
          exact hcounted
        · rw [findPage_counted dao hpaging hfound hcount htotal]
          exact hcounted

/-! #### Writes -/

/-- An insertion is a write on a copy of the entity. -/
theorem balanced_insert (e : ε) :
    Balanced (dao.insertFrames s e) s (dao.insert.exec (e, s)).2.2 := by
  have htree := isTree_saving hooks hooks.beforeInsert hooks.afterInsert isTree_insertRow
  exact balanced_writeOn on hs "insertion" e htree

/-- Without an identity there is no unit. -/
theorem balanced_update (e : ε) :
    Balanced (dao.updateFrames s e) s (dao.update.exec (e, s)).2.2 := by
  rw [updateFrames, update, Work.exec_get_bind]
  dsimp only
  cases dao.idOf e with
  | error reason => exact .nil hs
  | ok id =>
      have htree := isTree_saving hooks hooks.beforeUpdate hooks.afterUpdate (isTree_updateRow id)
      exact balanced_writeOn on hs "update" e htree

/-- A new entity is inserted, and any other one updated. -/
theorem balanced_save (e : ε) :
    Balanced (dao.saveFrames s e) s (dao.save.exec (e, s)).2.2 := by
  rw [saveFrames, save, Work.exec_get_bind]
  dsimp only
  split
  · exact balanced_insert on hs hooks e
  · exact balanced_update on hs hooks e

omit hooks in
/-- The fields are bound before there is a unit, which then sends one
statement. -/
theorem balanced_updateFields (fields : List (String × Value)) :
    Balanced (dao.updateFieldsFrames c s fields) s ((dao.updateFields fields c).exec s).2 := by
  refine balanced_given hs fun bound _ => ?_
  dsimp only
  split
  · exact .nil hs
  · have hwrite := balanced_write on hs "update" (w := do
      let written ← dao.db.execute (c.rowSelection.update dao.model.schema bound)
      return written.rows) ((IsProgram.execute _).bind fun _ => .pure _)
    rwa [writing, Frame.of_congr (Work.isOk_bind_pure _ _)] at hwrite

/-- A deletion is a write with its hooks inside. -/
theorem balanced_deleting {w : Work (Session (Recorded Event σ)) UInt64}
    (hw : IsProgram dao.db w) :
    Balanced (dao.deletingFrames c s w) s ((dao.deleting c w).exec s).2 :=
  balanced_write on hs "deletion" (.enclosed (hooks.beforeDelete c) (hooks.afterDelete c) hw)

/-- A deletion by criteria asks for what its frames do. -/
theorem balanced_deleteByCriteria :
    Balanced (dao.deleteFrames c s) s ((dao.deleteByCriteria c).exec s).2 :=
  balanced_deleting on hs hooks ((IsProgram.execute _).bind fun _ => .pure _)

/-- A deletion by identity asks for what its frames do; that a row was
there is seen after them. -/
theorem balanced_deleteById (id : Int64) :
    Balanced (given (dao.idCriteria id) (dao.deleteFrames · s)) s
      ((dao.deleteById id).exec s).2 :=
  balanced_given hs fun _ _ => balanced_then (fun _ _ => rfl)
    (balanced_deleteByCriteria on hs hooks)

/-- A cascade is one frame, however deep it goes, if the identities of its
roots can be asked for. -/
theorem balanced_deleteCascadeByCriteria [DecidableEq ι] :
    Balanced (dao.cascadeFrames c s) s (dao.deleteCascadeByCriteria.exec (c, s)).2.2 := by
  rw [deleteCascadeByCriteria_cascading, exec_onSession, cascading]
  exact balanced_given hs fun select _ =>
    balanced_deleting on hs hooks (isProgram_deleteCascadeRows select)

/-- That a root was there is seen after its frame. -/
theorem balanced_deleteCascadeById [DecidableEq ι] (id : Int64) :
    Balanced (given (dao.idCriteria id) (dao.cascadeFrames · s)) s
      ((dao.deleteCascadeById id).exec s).2 :=
  balanced_given hs fun _ _ => balanced_then (fun _ _ => rfl)
    (balanced_deleteCascadeByCriteria on hs hooks)

end

end

/-- An operation that is run where no unit is open has the units that its
own text shows, and no others. -/
theorem Operation.balanced (on : dao.db = db.recorded) (hooks : dao.HookTrees)
    (op : Operation ι ε α) (hs : s.units = {}) :
    Balanced (op.frames dao s) s ((op.work dao).exec s).2 := by
  -- An identity or a condition is refused before any unit; the rest is one of the
  -- above.
  cases op <;> rw [work, frames]
  case loadByCriteria criteria => exact balanced_carrying (balanced_loadByCriteria on hs hooks)
  case loadById id =>
    exact balanced_given hs fun _ _ => balanced_onCopy (balanced_loadByCriteria on hs hooks)
  case loadByCondition template values =>
    exact balanced_given hs fun _ _ => balanced_onCopy (balanced_loadByCriteria on hs hooks)
  case findByCriteria criteria => exact balanced_findByCriteria on hs hooks
  case findAll => exact balanced_findByCriteria on hs hooks
  case findByCondition template values =>
    exact balanced_given hs fun _ _ => balanced_findByCriteria on hs hooks
  case findPage criteria => exact balanced_carrying (balanced_findPage on hs hooks)
  case countByCriteria criteria => exact balanced_carrying (balanced_countByCriteria on hs)
  case countAll => exact balanced_onCopy (balanced_countByCriteria on hs)
  case countByCondition template values =>
    exact balanced_given hs fun _ _ => balanced_onCopy (balanced_countByCriteria on hs)
  case existsByCriteria criteria => exact balanced_carrying (balanced_existsByCriteria on hs)
  case existsAny => exact balanced_onCopy (balanced_existsByCriteria on hs)
  case existsById id =>
    exact balanced_given hs fun _ _ => balanced_onCopy (balanced_existsByCriteria on hs)
  case existsByCondition template values =>
    exact balanced_given hs fun _ _ => balanced_onCopy (balanced_existsByCriteria on hs)
  case project criteria names => exact balanced_carrying (balanced_project on hs names)
  case projectOne criteria α _ name => exact balanced_carrying (balanced_projectOne on hs name)
  case insert e => exact balanced_carrying (balanced_insert on hs hooks e)
  case update e => exact balanced_carrying (balanced_update on hs hooks e)
  case save e => exact balanced_carrying (balanced_save on hs hooks e)
  case updateFields fields criteria => exact balanced_updateFields on hs fields
  case updateAll fields => exact balanced_updateFields on hs fields
  case updateById id fields =>
    exact balanced_given hs fun _ _ =>
      balanced_then (fun _ _ => rfl) (balanced_updateFields on hs fields)
  case updateByCondition fields template values =>
    exact balanced_given hs fun _ _ => balanced_updateFields on hs fields
  case deleteByCriteria criteria => exact balanced_deleteByCriteria on hs hooks
  case deleteById id => exact balanced_deleteById on hs hooks id
  case delete e => exact balanced_given hs fun id _ => balanced_deleteById on hs hooks id
  case deleteByCondition template values =>
    exact balanced_given hs fun _ _ => balanced_deleteByCriteria on hs hooks
  case deleteAll => exact balanced_deleteByCriteria on hs hooks
  case deleteCascadeByCriteria criteria =>
    exact balanced_carrying (balanced_deleteCascadeByCriteria on hs hooks)
  case deleteCascadeById id => exact balanced_deleteCascadeById on hs hooks id
  case deleteCascade e =>
    exact balanced_given hs fun id _ => balanced_deleteCascadeById on hs hooks id

end Balanced

end Dao

end DataAccess
