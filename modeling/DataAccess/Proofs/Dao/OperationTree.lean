import DataAccess.Dao.Delete
import DataAccess.Dao.Load
import DataAccess.Proofs.Database.UnitProgram

/-!
# `DataAccess.Proofs.Dao.OperationTree`: operations are trees of units

Every operation of a `Dao` is a tree of units of work, if its hooks are
(`Dao.HookTrees`): the statements it sends, and the hooks around them,
are inside of units that are closed in any case.
-/

set_option autoImplicit false

namespace DataAccess

variable {σ ι ε τ α : Type}

namespace Dao

/-- The work on a subject, which is given back with the outcome. -/
def carrying (subject : τ) (w : Work (τ × Session σ) α) : Work (Session σ) (Result α × τ) :=
  Work.of fun s =>
    let (result, (subject, s)) := w.exec (subject, s)
    (.ok (result, subject), s)

/-- The hooks around the operations are trees of units themselves. -/
structure HookTrees (dao : Dao σ ι ε) : Prop where
  beforeSave : IsTree dao.db dao.hooks.beforeSave
  afterSave : ∀ e success, IsProgram dao.db (dao.hooks.afterSave e success)
  beforeInsert : IsTree dao.db dao.hooks.beforeInsert
  afterInsert : ∀ e success, IsProgram dao.db (dao.hooks.afterInsert e success)
  beforeUpdate : IsTree dao.db dao.hooks.beforeUpdate
  afterUpdate : ∀ e success, IsProgram dao.db (dao.hooks.afterUpdate e success)
  beforeDelete : ∀ criteria, IsProgram dao.db (dao.hooks.beforeDelete criteria)
  afterDelete : ∀ criteria success, IsProgram dao.db (dao.hooks.afterDelete criteria success)
  beforeLoad : ∀ criteria, IsProgram dao.db (dao.hooks.beforeLoad criteria)
  afterLoad : ∀ criteria success, IsProgram dao.db (dao.hooks.afterLoad criteria success)

/-- Without hooks there is nothing around the operations. -/
theorem HookTrees.of_none {dao : Dao σ ι ε} (h : dao.hooks = {}) : dao.HookTrees := by
  constructor
  all_goals rw [h]
  -- The hooks in the order of the structure, each of which does nothing.
  · exact .pure _
  · exact fun _ _ => .pure _
  · exact .pure _
  · exact fun _ _ => .pure _
  · exact .pure _
  · exact fun _ _ => .pure _
  · exact fun _ => .pure _
  · exact fun _ _ => .pure _
  · exact fun _ => .pure _
  · exact fun _ _ => .pure _

end Dao

/-- What changes a subject that it is given and gives it back is a program
on the session alone. -/
theorem IsProgram.carrying {db : Database σ} {w : Work (τ × Session σ) α} (subject : τ)
    (hw : IsTree db w) : IsProgram db (Dao.carrying subject w) := by
  intro ρ
  have heq : (Database.onSession (Dao.carrying subject w) : Work (ρ × Session σ) _)
      = UnitTree.onOther subject w := rfl
  rw [heq]
  exact IsProgram.onOther subject hw

namespace Dao

variable {dao : Dao σ ι ε}

/-- A read is one unit, with no transaction. -/
theorem isProgram_read (operation : String) {w : Work (Session σ) α}
    (hw : IsProgram dao.db w) : IsProgram dao.db (dao.read operation w) :=
  (hw.mapError _).readOnly

/-- A write is one unit, with a transaction. -/
theorem isProgram_write (operation : String) {w : Work (Session σ) α}
    (hw : IsProgram dao.db w) : IsProgram dao.db (dao.write operation w) :=
  (hw.mapError _).transaction

/-- A write on an entity is a tree if its work is. -/
theorem isTree_writeOn (operation : String) {w : Work (ε × Session σ) α}
    (hw : IsTree dao.db w) : IsTree dao.db (dao.writeOn operation w) :=
  (hw.mapError _).transactionOn

/-! ### Reads -/

/-- A find sends its statement and makes entities of the rows. -/
theorem isProgram_fetch (joins : JoinRegistry ι) (statement : Statement) :
    IsProgram dao.db (dao.fetch joins statement) :=
  (IsProgram.fetch statement).bind fun _ => .ofResult _

/-- A count sends its statement and looks at the first row, if there is
one. -/
theorem isProgram_fetchCount (statement : Statement) :
    IsProgram dao.db (dao.fetchCount statement) := by
  refine (IsProgram.fetch statement).bind fun rows => ?_
  split
  -- The first row has a number, or something that is none.
  · exact .ofResult _
  · exact .pure _

section
variable (hooks : dao.HookTrees)
include hooks

/-- A find with the hooks of a load around it. -/
theorem isProgram_fetchHooked (criteria : Criteria ι) (statement : Statement) :
    IsProgram dao.db (dao.fetchHooked criteria statement) :=
  .enclosed (hooks.beforeLoad criteria) (hooks.afterLoad criteria) (isProgram_fetch _ _)

/-- The statement is made of the criteria first; the unit is opened for the
find alone. -/
theorem isTree_loadByCriteria : IsTree dao.db dao.loadByCriteria := by
  refine (IsTree.onSubject _).bind fun statement => ?_
  refine IsTree.subject_bind (fun _ _ _ => rfl) fun (criteria, _) => ?_
  refine IsTree.bind (.onSession ?_) fun found => .pure _
  -- What is loaded is the first of what is found.
  exact isProgram_read "load" (isProgram_fetchHooked hooks criteria statement)

/-- A find has its hooks inside of its unit. -/
theorem isProgram_findByCriteria (criteria : Criteria ι) :
    IsProgram dao.db (dao.findByCriteria criteria) :=
  isProgram_read "find" (isProgram_fetchHooked hooks criteria _)

/-- The page and its count are units of their own. -/
theorem isTree_findPage : IsTree dao.db dao.findPage := by
  refine IsTree.subject_bind (fun _ _ _ => rfl) fun (criteria, _) => ?_
  refine (IsTree.ofResult _).bind fun paging => ?_
  refine (IsTree.onSubject _).bind fun count => ?_
  refine IsTree.bind (.onSession ?_) fun items => ?_
  · exact isProgram_read "find" (isProgram_fetchHooked hooks criteria _)
  · -- The count is not needed for an empty page, nor if it is known.
    split
    · exact .pure _
    · refine IsTree.bind (.onSession ?_) fun total => ?_
      · exact isProgram_read "count" (isProgram_fetchCount count)
      · exact (IsTree.onSubject _).bind fun _ => .pure _

end

/-- The statement of a count is made before its unit is opened. -/
theorem isTree_countByCriteria : IsTree dao.db dao.countByCriteria :=
  (IsTree.onSubject _).bind fun statement =>
    .onSession (isProgram_read "count" (isProgram_fetchCount statement))

/-- A look for rows is a unit like that of a count. -/
theorem isTree_existsByCriteria : IsTree dao.db dao.existsByCriteria := by
  refine (IsTree.onSubject _).bind fun statement => .onSession (isProgram_read "exists" ?_)
  exact (IsProgram.fetch statement).bind fun rows => .pure _

/-- The names are resolved on the criteria alone, before there is a unit. -/
theorem isTree_project (names : List String) : IsTree dao.db (dao.project names) := by
  refine (IsTree.onSubject _).bind fun columns => (IsTree.onSubject _).bind fun statement => ?_
  refine .onSession (isProgram_read "get" ?_)
  exact (IsProgram.fetch statement).bind fun rows => .pure _

/-- A single column is read as those of a list. -/
theorem isTree_projectOne [FromValue α] (name : String) :
    IsTree dao.db (dao.projectOne α name) :=
  (isTree_project [name]).bind fun _ => .ofResult _

/-! ### Writes of one entity -/

section
variable (hooks : dao.HookTrees)
include hooks

/-- The hooks after a save are told of the entity as it is then. -/
theorem isTree_saving {before : Work (ε × Session σ) Unit}
    {after : ε → Bool → Work (Session σ) Unit} {w : Work (ε × Session σ) Unit}
    (hbefore : IsTree dao.db before) (hafter : ∀ e success, IsProgram dao.db (after e success))
    (hw : IsTree dao.db w) : IsTree dao.db (dao.saving before after w) := by
  refine IsTree.enclosed ?_ (fun success => ?_) hw
  · exact hooks.beforeSave.bind fun _ => hbefore
  · refine IsTree.subject_bind (fun _ _ _ => rfl) fun (e, _) => ?_
    exact (IsTree.onSession (hafter e success)).bind fun _ =>
      .onSession (hooks.afterSave e success)

omit hooks in
/-- An insertion sends one statement and gives the entity its identity. -/
theorem isTree_insertRow : IsTree dao.db dao.insertRow := by
  refine IsTree.subject_bind (fun _ _ _ => rfl) fun (e, _) => ?_
  refine (IsTree.ofResult _).bind fun fields => ?_
  refine (IsTree.onSession (.execute _)).bind fun written => ?_
  split
  · split
    · exact .onSubject _
    · exact .fail _
  · exact .pure _

/-- An insertion has its hooks inside of its unit. -/
theorem isTree_insert : IsTree dao.db dao.insert :=
  isTree_writeOn "insertion"
    (isTree_saving hooks hooks.beforeInsert hooks.afterInsert isTree_insertRow)

omit hooks in
/-- An update reads the fields off the entity and sends one statement. -/
theorem isTree_updateRow (id : Int64) : IsTree dao.db (dao.updateRow id) := by
  refine IsTree.subject_bind (fun _ _ _ => rfl) fun (e, _) => ?_
  refine (IsTree.ofResult _).bind fun fields => (IsTree.ofResult _).bind fun criteria => ?_
  exact (IsTree.onSession (.execute _)).bind fun _ => .ofResult _

/-- Without an identity no unit is opened at all. -/
theorem isTree_update : IsTree dao.db dao.update := by
  refine IsTree.subject_bind (fun _ _ _ => rfl) fun (e, _) => ?_
  refine (IsTree.ofResult _).bind fun id => ?_
  exact isTree_writeOn "update"
    (isTree_saving hooks hooks.beforeUpdate hooks.afterUpdate (isTree_updateRow id))

/-- A new entity is inserted, and any other one is updated. -/
theorem isTree_save : IsTree dao.db dao.save := by
  refine IsTree.subject_bind (fun _ _ _ => rfl) fun (e, _) => ?_
  dsimp only
  split
  · exact isTree_insert hooks
  · exact isTree_update hooks

end

/-! ### Writes of all entities of a criteria -/

/-- Without fields nothing is opened, and else there is one unit. -/
theorem isProgram_updateFields (fields : List (String × Value)) (criteria : Criteria ι) :
    IsProgram dao.db (dao.updateFields fields criteria) := by
  refine (IsProgram.ofResult _).bind fun bound => ?_
  split
  -- Nothing is to be updated.
  · exact .fail _
  · exact isProgram_write "update" ((IsProgram.execute _).bind fun _ => .pure _)

/-- The criteria for an identity is made out before the update. -/
theorem isProgram_updateById (id : Int64) (fields : List (String × Value)) :
    IsProgram dao.db (dao.updateById id fields) :=
  (IsProgram.ofResult _).bind fun criteria =>
    (isProgram_updateFields fields criteria).bind fun _ => .ofResult _

section
variable (hooks : dao.HookTrees)
include hooks

/-- The hooks of a deletion are inside of its unit. -/
theorem isProgram_deleting (criteria : Criteria ι) {w : Work (Session σ) UInt64}
    (hw : IsProgram dao.db w) : IsProgram dao.db (dao.deleting criteria w) :=
  isProgram_write "deletion"
    (.enclosed (hooks.beforeDelete criteria) (hooks.afterDelete criteria) hw)

/-- A deletion sends one statement. -/
theorem isProgram_deleteByCriteria (criteria : Criteria ι) :
    IsProgram dao.db (dao.deleteByCriteria criteria) :=
  isProgram_deleting hooks criteria ((IsProgram.execute _).bind fun _ => .pure _)

/-- That a row was there is seen after the unit is closed. -/
theorem isProgram_deleteById (id : Int64) : IsProgram dao.db (dao.deleteById id) :=
  (IsProgram.ofResult _).bind fun criteria =>
    (isProgram_deleteByCriteria hooks criteria).bind fun _ => .ofResult _

end

/-! ### Cascading deletes -/

/-- Identities are read off the rows of one statement. -/
theorem isProgram_fetchIds (select : Statement) : IsProgram dao.db (dao.fetchIds select) :=
  (IsProgram.fetch select).bind fun _ => .ofResult _

variable [DecidableEq ι]

/-- The dependents are deleted without units of their own, however deep
they go. -/
theorem isProgram_deleteDependents (depth : Nat) (kind : ι) (joinField : String)
    (parents : List Int64) :
    IsProgram dao.db (dao.deleteDependents depth kind joinField parents) := by
  induction depth generalizing kind joinField parents with
  | zero =>
      rw [deleteDependents]
      split
      · exact .pure _
      · exact .fail _
  | succ depth ih =>
      rw [deleteDependents]
      split
      · exact .pure _
      · refine (IsProgram.ofResult _).bind fun criteria => ?_
        refine (IsProgram.ofResult _).bind fun select => ?_
        refine (isProgram_fetchIds select).bind fun ids => ?_
        -- Those that depend on the rows that were found, one type less deep.
        have hlinks (link : ι × String) :
            IsProgram dao.db (dao.deleteDependents depth link.1 link.2 ids) :=
          ih link.1 link.2 ids
        refine (IsProgram.forM _ hlinks).bind fun _ => ?_
        exact (IsProgram.execute _).bind fun _ => .pure _

/-- The roots are read, then their dependents are deleted link by link, and
then the roots. -/
theorem isProgram_deleteCascadeRows (select : Statement) :
    IsProgram dao.db (dao.deleteCascadeRows select) := by
  refine (isProgram_fetchIds select).bind fun ids => ?_
  split
  -- There are no roots.
  · exact .pure _
  · have hlinks (link : ι × String) : IsProgram dao.db
        (dao.deleteDependents dao.db.settings.joinMaxDepth link.1 link.2 ids) :=
      isProgram_deleteDependents _ link.1 link.2 ids
    refine (IsProgram.forM _ hlinks).bind fun _ => ?_
    refine (IsProgram.ofResult _).bind fun identity => ?_
    refine (IsProgram.ofResult _).bind fun roots => ?_
    exact (IsProgram.execute _).bind fun _ => .pure _

/-- The statement for the roots is made before the unit is opened. -/
theorem isTree_deleteCascadeByCriteria (hooks : dao.HookTrees) :
    IsTree dao.db dao.deleteCascadeByCriteria := by
  refine (IsTree.onSubject _).bind fun select => (IsTree.ofResult _).bind fun select => ?_
  refine IsTree.subject_bind (fun _ _ _ => rfl) fun (criteria, _) => ?_
  exact .onSession (isProgram_deleting hooks criteria (isProgram_deleteCascadeRows select))

/-- That a row was there is seen after the unit is closed. -/
theorem isProgram_deleteCascadeById (hooks : dao.HookTrees) (id : Int64) :
    IsProgram dao.db (dao.deleteCascadeById id) :=
  (IsProgram.ofResult _).bind fun criteria =>
    (IsProgram.onCopy criteria (isTree_deleteCascadeByCriteria hooks)).bind fun _ => .ofResult _

end Dao

end DataAccess
