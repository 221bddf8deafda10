import DataAccess.Dao.Interceptor
import DataAccess.Schema.Model

/-!
# `DataAccess.Dao.Planned`: hooks that follow a plan

An interceptor for trials: each of its hooks is noted with what it was
told, and then does what its plan says. It may close a unit of work,
fail, or, before an entity is saved, set fields of it.
-/

set_option autoImplicit false

namespace DataAccess

/-- The hooks of an interceptor. -/
inductive Hook where
  | beforeSave
  | afterSave
  | beforeInsert
  | afterInsert
  | beforeUpdate
  | afterUpdate
  | beforeDelete
  | afterDelete
  | beforeLoad
  | afterLoad
  deriving DecidableEq, Repr

/-- The name of a hook. -/
def Hook.name : Hook → String
  | .beforeSave => "before_save"
  | .afterSave => "after_save"
  | .beforeInsert => "before_insert"
  | .afterInsert => "after_insert"
  | .beforeUpdate => "before_update"
  | .afterUpdate => "after_update"
  | .beforeDelete => "before_delete"
  | .afterDelete => "after_delete"
  | .beforeLoad => "before_load"
  | .afterLoad => "after_load"

/-- What a hook was told. -/
inductive Told (ι ε : Type) where
  /-- The entity that is to be saved. -/
  | saving (e : ε)
  /-- The entity that was saved, and whether that succeeded. -/
  | saved (e : ε) (success : Bool)
  /-- The criteria that is to be used. -/
  | using (criteria : Criteria ι)
  /-- The criteria that was used, and whether that succeeded. -/
  | used (criteria : Criteria ι) (success : Bool)

/-- What a hook does. -/
structure HookPlan where
  /-- It closes a unit of work. -/
  closes : Bool := false
  /-- It fails. -/
  error : Option Error := none
  /-- It sets fields of the entity. -/
  assignments : List (String × Value) := []

namespace Interceptor

variable {σ ι ε : Type}

/-- A hook that notes what it was told, and then does what its plan says
except for the entity. -/
def follow (note : Hook → Told ι ε → Work (Session σ) Unit) (close : Work (Session σ) Unit)
    (plan : Hook → HookPlan) (hook : Hook) (told : Told ι ε) : Work (Session σ) Unit := do
  note hook told
  if (plan hook).closes then close
  match (plan hook).error with
  | some e => Work.fail e
  | none => return

/-- A hook before a save, which also sets fields of the entity. -/
def followSaving (m : Model ι ε) (note : Hook → Told ι ε → Work (Session σ) Unit)
    (close : Work (Session σ) Unit) (plan : Hook → HookPlan) (hook : Hook) :
    Work (ε × Session σ) Unit := do
  let (e, _) ← get
  Database.onSession (follow note close plan hook (.saving e))
  (plan hook).assignments.forM fun assignment => do
    let (e, _) ← get
    let e ← Work.ofResult (m.setValue assignment.1 assignment.2 e)
    Database.onSubject (set e)

/-- The interceptor that notes its hooks with `note`, follows `plan`,
and closes units of work with `close`. -/
def planned (m : Model ι ε) (note : Hook → Told ι ε → Work (Session σ) Unit)
    (close : Work (Session σ) Unit) (plan : Hook → HookPlan) : Interceptor σ ι ε where
  beforeSave := followSaving m note close plan .beforeSave
  afterSave e success := follow note close plan .afterSave (.saved e success)
  beforeInsert := followSaving m note close plan .beforeInsert
  afterInsert e success := follow note close plan .afterInsert (.saved e success)
  beforeUpdate := followSaving m note close plan .beforeUpdate
  afterUpdate e success := follow note close plan .afterUpdate (.saved e success)
  beforeDelete criteria := follow note close plan .beforeDelete (.using criteria)
  afterDelete criteria success := follow note close plan .afterDelete (.used criteria success)
  beforeLoad criteria := follow note close plan .beforeLoad (.using criteria)
  afterLoad criteria success := follow note close plan .afterLoad (.used criteria success)

end Interceptor

end DataAccess
