import DataAccess.Dao.Basic

/-!
# `DataAccess.Dao.Save`: inserts and updates

* `Dao.insert`, `Dao.update`, `Dao.save`: one entity, with hooks. A new
  entity gets the key that the database made for it; it keeps it, even
  if the transaction is not committed.
* `Dao.updateFields` and its kin: fields of all entities of a criteria.
-/

set_option autoImplicit false

namespace DataAccess.Dao

variable {σ ι ε : Type}

/-! ## One entity -/

/-- The work between the hooks of a save. -/
def saving (dao : Dao σ ι ε) (before : Work (ε × Session σ) Unit)
    (after : ε → Bool → Work (Session σ) Unit) (w : Work (ε × Session σ) Unit) :
    Work (ε × Session σ) Unit :=
  Work.enclosed (do dao.hooks.beforeSave; before)
    (fun success => do
      let (e, _) ← get
      Database.onSession (after e success)
      Database.onSession (dao.hooks.afterSave e success))
    w

/-- The fields of an entity to insert: all but identities it has not. -/
def insertFields (dao : Dao σ ι ε) (e : ε) : Result (List BoundField) := do
  let bound ← dao.model.bindValues dao.kind e
  return bound.filter fun b => !(b.field.identity && b.value.isNull)

/-- The fields of an entity to update: all but its identity. -/
def updateFieldsOf (dao : Dao σ ι ε) (e : ε) : Result (List BoundField) := do
  let bound ← dao.model.bindValues dao.kind e
  return bound.filter fun b => !b.field.identity

/-- Inserts the row of an entity. A new entity gets its key. -/
def insertRow (dao : Dao σ ι ε) : Work (ε × Session σ) Unit := do
  let (e, _) ← get
  let fields ← Work.ofResult (dao.insertFields e)
  let written ← Database.onSession (dao.db.execute (.insert dao.declaration.table fields))
  if dao.model.isNew e then
    match written.generatedKey with
    | some key => Database.onSubject (modify (dao.model.setId key))
    | none => Work.fail (.execution "insertion" "the database reported no generated key")

/-- Inserts an entity. -/
def insert (dao : Dao σ ι ε) : Work (ε × Session σ) Unit :=
  dao.writeOn "insertion"
    (dao.saving dao.hooks.beforeInsert dao.hooks.afterInsert dao.insertRow)

/-- Updates the row of the identity `id` with the fields of an
entity. -/
def updateRow (dao : Dao σ ι ε) (id : Int64) : Work (ε × Session σ) Unit := do
  let (e, _) ← get
  let fields ← Work.ofResult (dao.updateFieldsOf e)
  let criteria ← Work.ofResult (dao.idCriteria id)
  let statement := criteria.update dao.model.schema fields
  let written ← Database.onSession (dao.db.execute statement)
  Work.ofResult (some? "updated" written.rows)

/-- The identity of an entity that has to have one. -/
def idOf (dao : Dao σ ι ε) (e : ε) : Result Int64 :=
  match dao.model.id? e with
  | some id => .ok id
  | none => .error .missingPrimaryKey

/-- Updates an entity by the identity it has at the start. -/
def update (dao : Dao σ ι ε) : Work (ε × Session σ) Unit := do
  let (e, _) ← get
  let id ← Work.ofResult (dao.idOf e)
  dao.writeOn "update"
    (dao.saving dao.hooks.beforeUpdate dao.hooks.afterUpdate (dao.updateRow id))

/-- Inserts an entity without an identity, and updates one that has
one. -/
def save (dao : Dao σ ι ε) : Work (ε × Session σ) Unit := do
  let (e, _) ← get
  if dao.model.isNew e then dao.insert else dao.update

/-! ## All entities of a criteria -/

/-- Fields of the type with values. -/
def bindFields (dao : Dao σ ι ε) (fields : List (String × Value)) :
    Result (List BoundField) :=
  fields.mapM fun (name, value) => do
    let field ← dao.declaration.field name
    return ⟨field, value⟩

/-- Gives fields of all entities of a criteria new values, whatever
orders, groupings and limits it has. Returns how many there were. -/
def updateFields (dao : Dao σ ι ε) (fields : List (String × Value)) (criteria : Criteria ι) :
    Work (Session σ) UInt64 := do
  let bound ← Work.ofResult (dao.bindFields fields)
  if bound.isEmpty then Work.fail (.invalidInput .nothingToUpdate)
  else
    let statement := criteria.rowSelection.update dao.model.schema bound
    dao.write "update" do
      let written ← dao.db.execute statement
      return written.rows

/-- Gives fields of all entities new values. -/
def updateAll (dao : Dao σ ι ε) (fields : List (String × Value)) :
    Work (Session σ) UInt64 :=
  dao.updateFields fields dao.criteria

/-- Gives fields of the entity of an identity new values. -/
def updateById (dao : Dao σ ι ε) (id : Int64) (fields : List (String × Value)) :
    Work (Session σ) Unit := do
  let criteria ← Work.ofResult (dao.idCriteria id)
  let rows ← dao.updateFields fields criteria
  Work.ofResult (some? "updated" rows)

/-- Gives fields of the entities of a condition new values. -/
def updateByCondition (dao : Dao σ ι ε) (fields : List (String × Value)) (template : String)
    (values : List Value) : Work (Session σ) UInt64 := do
  let criteria ← Work.ofResult (dao.conditionCriteria template values)
  dao.updateFields fields criteria

end DataAccess.Dao
