import DataAccess.Dao.Save

/-!
# `DataAccess.Dao.Delete`: deletes

* `Dao.deleteByCriteria` and its kin: all entities of a criteria, with
  hooks.
* `Dao.deleteCascadeByCriteria` and its kin: all entities of a
  criteria, and before them all entities of dependent types that
  point at them, and so on, in one transaction. The dependents go at
  most as deep as joins may.
-/

set_option autoImplicit false

namespace DataAccess.Dao

variable {σ ι ε : Type}

/-! ## Plain deletes -/

/-- The work between the hooks of a delete. -/
def deleting (dao : Dao σ ι ε) (criteria : Criteria ι) (w : Work (Session σ) UInt64) :
    Work (Session σ) UInt64 :=
  dao.write "deletion"
    (Work.enclosed (dao.hooks.beforeDelete criteria) (dao.hooks.afterDelete criteria) w)

/-- Deletes all entities of a criteria, whatever orders, groupings and
limits it has. Returns how many there were. -/
def deleteByCriteria (dao : Dao σ ι ε) (criteria : Criteria ι) : Work (Session σ) UInt64 :=
  dao.deleting criteria do
    let written ← dao.db.execute (criteria.rowSelection.delete dao.model.schema)
    return written.rows

/-- Deletes the entity of an identity. -/
def deleteById (dao : Dao σ ι ε) (id : Int64) : Work (Session σ) Unit := do
  let criteria ← Work.ofResult (dao.idCriteria id)
  let rows ← dao.deleteByCriteria criteria
  Work.ofResult (some? "deleted" rows)

/-- Deletes an entity. -/
def delete (dao : Dao σ ι ε) (e : ε) : Work (Session σ) Unit := do
  let id ← Work.ofResult (dao.idOf e)
  dao.deleteById id

/-- Deletes the entities of a condition. -/
def deleteByCondition (dao : Dao σ ι ε) (template : String) (values : List Value) :
    Work (Session σ) UInt64 := do
  let criteria ← Work.ofResult (dao.conditionCriteria template values)
  dao.deleteByCriteria criteria

/-- Deletes all entities. -/
def deleteAll (dao : Dao σ ι ε) : Work (Session σ) UInt64 :=
  dao.deleteByCriteria dao.criteria

/-! ## Cascading deletes -/

/-- The statement that reads the identities of a criteria. -/
def selectIds (dao : Dao σ ι ε) (criteria : Criteria ι) : Result Statement := do
  let identity ← (criteria.declaration dao.model.schema).identityField
  return criteria.project dao.model.schema [⟨.main, identity.column⟩]

/-- The identities that a statement reads. -/
def fetchIds (dao : Dao σ ι ε) (select : Statement) : Work (Session σ) (List Int64) := do
  let rows ← dao.db.fetch select
  Work.ofResult <| rows.mapM fun row => do
    let id ← row.at? 0
    id.as Int64

/-- The dependent types of a type, each with a field that points at
entities of it. -/
def dependentLinks [DecidableEq ι] (schema : Schema ι) (kind : ι) : List (ι × String) :=
  (schema kind).dependents.flatMap fun dependent =>
    ((schema dependent).relationsTo kind).map fun r => (dependent, r.joinField)

/-- Deletes the entities of a type whose field `joinField` points at one
of the given entities, and before them those that point at them, at
most `depth` types deep. -/
def deleteDependents [DecidableEq ι] (dao : Dao σ ι ε) (depth : Nat) (kind : ι)
    (joinField : String) (parents : List Int64) : Work (Session σ) Unit := do
  if parents.isEmpty then return
  else
    match depth with
    | 0 =>
      Work.fail (.configuration
        (.cascadeTooDeep (dao.model.schema kind).table dao.db.settings.joinMaxDepth))
    | depth + 1 => do
      let criteria ← Work.ofResult (dao.membershipCriteria kind joinField parents)
      let select ← Work.ofResult (dao.selectIds criteria)
      let ids ← dao.fetchIds select
      (dependentLinks dao.model.schema kind).forM fun link =>
        deleteDependents dao depth link.1 link.2 ids
      let _ ← dao.db.execute (criteria.delete dao.model.schema)

/-- Deletes the entities whose identities a statement reads, and before
them those that point at them. Returns how many of the former the last
statement deleted. -/
def deleteCascadeRows [DecidableEq ι] (dao : Dao σ ι ε) (select : Statement) :
    Work (Session σ) UInt64 := do
  let ids ← dao.fetchIds select
  if ids.isEmpty then return 0
  else
    (dependentLinks dao.model.schema dao.kind).forM fun link =>
      dao.deleteDependents dao.db.settings.joinMaxDepth link.1 link.2 ids
    let identity ← Work.ofResult dao.declaration.identityField
    let roots ← Work.ofResult (dao.membershipCriteria dao.kind identity.name ids)
    let written ← dao.db.execute (roots.delete dao.model.schema)
    return written.rows

/-- Deletes all entities of a criteria, whatever limits it has, and
those that depend on them. Returns how many of the former there
were. -/
def deleteCascadeByCriteria [DecidableEq ι] (dao : Dao σ ι ε) :
    Work (Criteria ι × Session σ) UInt64 := do
  let select ← Database.onSubject (Criteria.limitedTo none dao.selectIds)
  let select ← Work.ofResult select
  let (criteria, _) ← get
  Database.onSession (dao.deleting criteria (dao.deleteCascadeRows select))

/-- Deletes the entity of an identity, and those that depend on it. -/
def deleteCascadeById [DecidableEq ι] (dao : Dao σ ι ε) (id : Int64) :
    Work (Session σ) Unit := do
  let criteria ← Work.ofResult (dao.idCriteria id)
  let rows ← onCopy criteria dao.deleteCascadeByCriteria
  Work.ofResult (some? "deleted" rows)

/-- Deletes an entity, and those that depend on it. -/
def deleteCascade [DecidableEq ι] (dao : Dao σ ι ε) (e : ε) : Work (Session σ) Unit := do
  let id ← Work.ofResult (dao.idOf e)
  dao.deleteCascadeById id

end DataAccess.Dao
