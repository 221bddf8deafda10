import DataAccess.Dao.Interceptor
import DataAccess.Database.Raw

/-!
# `DataAccess.Dao.Basic`: access to the entities of one type

A `Dao` runs the operations on entities of one type in units of work
with a database: writes in a transaction, reads on a plain connection.
Both join the units that are already open, so that operations can be
put together inside a transaction.

* `Dao.of`: access to a type whose declaration is usable.
* `Dao.criteria`, `pagedCriteria`, `idCriteria`, `conditionCriteria`:
  criteria for its entities.
* `Dao.read`, `Dao.write`: the units of work; an error of the database
  becomes one of the operation.
-/

set_option autoImplicit false

namespace DataAccess

/-- Access to the entities of one type. -/
structure Dao (σ ι ε : Type) where
  db : Database σ
  /-- How entities are read and changed. -/
  model : Model ι ε
  /-- The type. -/
  kind : ι
  /-- The hooks around its operations. -/
  hooks : Interceptor σ ι ε := {}

namespace Dao

variable {σ ι ε α : Type}

/-- The declaration of the type. -/
def declaration (dao : Dao σ ι ε) : Declaration ι :=
  dao.model.schema dao.kind

/-- Access to the entities of a type whose declaration is usable. -/
def of (db : Database σ) (model : Model ι ε) (kind : ι) (hooks : Interceptor σ ι ε := {}) :
    Result (Dao σ ι ε) := do
  (model.schema kind).validate
  return { db := db, model := model, kind := kind, hooks := hooks }

/-! ## Criteria -/

/-- A criteria for all entities of a type, with the settings of the
database. -/
def criteriaFor (dao : Dao σ ι ε) (kind : ι) : Criteria ι :=
  .new kind dao.db.settings

/-- A criteria for all entities. -/
def criteria (dao : Dao σ ι ε) : Criteria ι :=
  dao.criteriaFor dao.kind

/-- A criteria for the first page of all entities. -/
def pagedCriteria (dao : Dao σ ι ε) (pageSize : UInt64) : Result (Criteria ι) :=
  Criteria.paged dao.kind pageSize dao.db.settings

/-- A criteria for the first page of all entities, with as many rows as
the settings say. -/
def defaultPagedCriteria (dao : Dao σ ι ε) : Result (Criteria ι) :=
  dao.pagedCriteria dao.db.settings.defaultPageSize

/-- A criteria that was changed by some work. -/
def changed (c : Criteria ι) (w : Work (Criteria ι) Unit) : Result (Criteria ι) :=
  match w.exec c with
  | (.ok _, c) => .ok c
  | (.error e, _) => .error e

/-- A criteria for the entity of an identity. -/
def idCriteria (dao : Dao σ ι ε) (id : Int64) : Result (Criteria ι) := do
  let identity ← dao.declaration.identityField
  changed dao.criteria
    (Criteria.addFilter dao.model.schema .and identity.name .equal (.int64 id))

/-- A criteria for the entities of a type with one of several values of
a field. -/
def membershipCriteria (dao : Dao σ ι ε) (kind : ι) (field : String) (ids : List Int64) :
    Result (Criteria ι) :=
  changed (dao.criteriaFor kind)
    (Criteria.addFilter dao.model.schema .and field .membership (.array (ids.map .int64)))

/-- A criteria for the entities of a condition. -/
def conditionCriteria (dao : Dao σ ι ε) (template : String) (values : List Value) :
    Result (Criteria ι) :=
  changed dao.criteria (Criteria.addCondition dao.model.schema .and template values)

/-! ## Units of work -/

/-- Reads, in a unit of work. -/
def read (dao : Dao σ ι ε) (operation : String) (w : Work (Session σ) α) :
    Work (Session σ) α :=
  dao.db.readOnly (w.mapError (.inOperation operation))

/-- Writes, in a unit of work with a transaction. -/
def write (dao : Dao σ ι ε) (operation : String) (w : Work (Session σ) α) :
    Work (Session σ) α :=
  dao.db.transaction (w.mapError (.inOperation operation))

/-- Writes an entity, in a unit of work with a transaction. -/
def writeOn (dao : Dao σ ι ε) (operation : String) (w : Work (ε × Session σ) α) :
    Work (ε × Session σ) α :=
  dao.db.transactionOn (w.mapError (.inOperation operation))

/-- Work on a subject that is needed no longer. -/
def onCopy {τ : Type} (subject : τ) (w : Work (τ × Session σ) α) : Work (Session σ) α :=
  Work.of fun s =>
    let (result, (_, s)) := w.exec (subject, s)
    (result, s)

/-- A number of rows written, where no rows are an error. -/
def some? (operation : String) (rows : UInt64) : Result Unit :=
  if rows = 0 then .error (.noRecordAffected operation) else .ok ()

end Dao

end DataAccess
