import DataAccess.Criteria.Basic
import DataAccess.Database.Basic

/-!
# `DataAccess.Dao.Interceptor`: hooks around operations

What is done before and after the operations on entities, inside their
units of work. A hook before an operation can change the entity, and
the operation fails if it fails. A hook after an operation is told
whether the operation succeeded.
-/

set_option autoImplicit false

namespace DataAccess

/-- Hooks around the operations on entities `ε`, over a source with
states `σ`. By themselves they do nothing. -/
structure Interceptor (σ ι ε : Type) where
  /-- Before an entity is inserted or updated. -/
  beforeSave : Work (ε × Session σ) Unit := return
  /-- After an entity was inserted or updated. -/
  afterSave : ε → Bool → Work (Session σ) Unit := fun _ _ => return
  /-- Before an entity is inserted. -/
  beforeInsert : Work (ε × Session σ) Unit := return
  /-- After an entity was inserted. -/
  afterInsert : ε → Bool → Work (Session σ) Unit := fun _ _ => return
  /-- Before an entity is updated. -/
  beforeUpdate : Work (ε × Session σ) Unit := return
  /-- After an entity was updated. -/
  afterUpdate : ε → Bool → Work (Session σ) Unit := fun _ _ => return
  /-- Before the entities of a criteria are deleted. -/
  beforeDelete : Criteria ι → Work (Session σ) Unit := fun _ => return
  /-- After the entities of a criteria were deleted. -/
  afterDelete : Criteria ι → Bool → Work (Session σ) Unit := fun _ _ => return
  /-- Before the entities of a criteria are loaded. -/
  beforeLoad : Criteria ι → Work (Session σ) Unit := fun _ => return
  /-- After the entities of a criteria were loaded. -/
  afterLoad : Criteria ι → Bool → Work (Session σ) Unit := fun _ _ => return

end DataAccess
