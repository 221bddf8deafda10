import DataAccess.Proofs.Criteria.JoinRegistry
import DataAccess.Proofs.Criteria.Resolution

/-!
# `DataAccess.Proofs.Criteria.Change`: the criteria a program can reach

A program changes a criteria step by step. `Criteria.Change` lists the
steps, `Change.work` is the work of one of them, and `Criteria.run` does
many, one after another, whether they fail or not.

`Sound` says what holds of every criteria reached from a new one: its
settings never change, every column it mentions is one that the schema
declares, and every condition has as many values as placeholders
(`Condition.Sound`). What holds of its joins is left open: `J` stands
for anything that `JoinRegistry.resolve` keeps, be it only on the paths
of a kind `D`. `Change.keeps_sound` is the step and `run_sound` the run.
-/

set_option autoImplicit false

namespace DataAccess

variable {ι : Type}

/-- The text is the name of a column that the schema declares. -/
def Schema.HasColumn (schema : Schema ι) (column : String) : Prop :=
  ∃ k, ∃ f ∈ (schema k).fields, f.column = column

/-- A name that has a column names a field with it. -/
theorem Schema.hasColumn_of_columnName {schema : Schema ι} {k : ι} {name column : String}
    (h : (schema k).columnName name = .ok column) : schema.HasColumn column := by
  simp only [Declaration.columnName, Declaration.field] at h
  cases hf : (schema k).fields.find? (·.name == name) with
  | none => simp [hf, bind, Except.bind] at h
  | some f =>
      simp only [hf, bind, Except.bind, pure, Except.pure, Except.ok.injEq] at h
      exact ⟨k, f, List.mem_of_find?_eq_some hf, h⟩

/-- The condition is about declared columns, and has a value for each of
its placeholders. -/
def Condition.Sound (schema : Schema ι) (c : Condition) : Prop :=
  match c.clause with
  | .filter column comparison =>
    schema.HasColumn column.column ∧ (comparison ≠ .membership → c.values.length = 1)
  | .template text => Template.placeholders text = c.values.length

namespace Criteria

/-! ### Changes -/

/-- One change of a criteria. -/
inductive Change where
  | filter (connector : Connector) (field : String) (comparison : Comparison) (value : Value)
  | condition (connector : Connector) (template : String) (values : List Value)
  | order (field : String) (direction : Direction)
  | grouping (field : String)
  | fetchPath (path : List String)
  | fetch (path : String)
  | fetches (paths : List String)
  | resolve (name : String)
  | limit (rows : Option UInt64)
  | paging (window : Paging)
  | page (number : UInt64)
  | suspendLimits
  | restoreLimits (saved : SavedLimits)
  | clearConditions
  | clearOrders
  | clearGroupings
  | clearFetches
  | clearLimit
  | clearPaging
  | clear
  | rowSelection

/-- The work of a change. -/
def Change.work (schema : Schema ι) : Change → Work (Criteria ι) Unit
  | .filter connector field comparison value =>
    addFilter schema connector field comparison value
  | .condition connector template values => addCondition schema connector template values
  | .order field direction => addOrder schema field direction
  | .grouping field => addGrouping schema field
  | .fetchPath path => addFetchPath schema path
  | .fetch path => addFetch schema path
  | .fetches paths => addFetches schema paths
  | .resolve name => do let _ ← resolveField schema name
  | .limit rows => modify (setLimit rows)
  | .paging window => modify (setPaging window)
  | .page number => setPage number
  | .suspendLimits => modify Criteria.suspendLimits
  | .restoreLimits saved => modify (Criteria.restoreLimits saved)
  | .clearConditions => modify Criteria.clearConditions
  | .clearOrders => modify Criteria.clearOrders
  | .clearGroupings => modify Criteria.clearGroupings
  | .clearFetches => modify Criteria.clearFetches
  | .clearLimit => modify Criteria.clearLimit
  | .clearPaging => modify Criteria.clearPaging
  | .clear => modify Criteria.clear
  | .rowSelection => modify Criteria.rowSelection

/-- A path that is given as a list has `D`. -/
def Change.OnPaths (D : List String → Prop) : Change → Prop
  | .fetchPath path => D path
  | _ => True

/-- Nothing is asked of paths by a condition that all of them meet. -/
theorem Change.onPaths_true (change : Change) : change.OnPaths fun _ => True := by
  cases change <;> trivial

/-- The criteria after a change, which may have failed. -/
def after (schema : Schema ι) (c : Criteria ι) (change : Change) : Criteria ι :=
  ((change.work schema).exec c).2

/-- The criteria after many changes; those that fail do not keep the
others from being made. -/
def run (schema : Schema ι) (c : Criteria ι) (changes : List Change) : Criteria ι :=
  changes.foldl (after schema) c

/-- A schema with circles: people, each of whom may have a boss and a
mentor, who are people too. -/
def people : Schema Unit := fun _ => {
  typeName := "Person"
  table := "people"
  fields := [⟨"id", "id", .bigInt, true⟩, ⟨"bossId", "boss_id", .bigInt, false⟩,
    ⟨"mentorId", "mentor_id", .bigInt, false⟩]
  relations := [⟨"boss", "bossId", ()⟩, ⟨"mentor", "mentorId", ()⟩]
  dependents := [] }

/-! ### What is returned -/

section Returned
variable (schema : Schema ι) (name : String)

/-- What a name resolves to is a column that the schema has. -/
theorem resolvePath_returns :
    Work.Returns (fun column => schema.HasColumn column.column) (resolvePath schema name) := by
  unfold resolvePath
  refine Work.returns_get_bind fun c => ?_
  split
  · -- A name without relations is a field of the root.
    refine Work.returns_bind (Work.returns_ofResult fun column h => ?_) fun column h =>
      Work.returns_pure h
    exact Schema.hasColumn_of_columnName h
  · -- Any other one is a field of the type that its path leads to.
    refine Work.returns_bind (R := fun _ => True) (fun _ _ _ _ => trivial) fun join _ => ?_
    refine Work.returns_bind (Work.returns_ofResult fun column h => ?_) fun column h =>
      Work.returns_pure h
    exact Schema.hasColumn_of_columnName h

/-- A name stands for a declared column, if for any. -/
theorem resolveField_returns :
    Work.Returns (fun column => schema.HasColumn column.column) (resolveField schema name) := by
  unfold resolveField keepingJoins
  exact Work.returns_undoing (resolvePath_returns schema name)

end Returned

/-- A comparison with one value has one. -/
theorem filterValues_length {field : String} {comparison : Comparison} {value : Value}
    {values : List Value} (h : filterValues field comparison value = .ok values)
    (hc : comparison ≠ .membership) : values.length = 1 := by
  -- Only a single value that is no array is left.
  unfold filterValues at h
  split at h
  · cases h
  · exact absurd rfl hc
  · cases h
  · cases h
    rfl

/-- A template with its references replaced, if it then has as many
placeholders as there are values. -/
def resolveCounted (schema : Schema ι) (template : String) (values : List Value) :
    Work (Criteria ι) String := do
  let text ← resolveTemplate schema template
  if Template.placeholders text ≠ values.length then
    Work.fail (.invalidInput
      (.placeholderCount template (Template.placeholders text) values.length))
  else return text

/-- A condition is refused before anything is resolved, or else its text
is resolved and it is added. -/
theorem addCondition_eq (schema : Schema ι) (connector : Connector) (template : String)
    (values : List Value) :
    addCondition schema connector template values =
      if (Text.trim template).isEmpty then Work.fail (.invalidInput .emptyCondition)
      else if !values.all Value.isScalar then Work.fail (.invalidInput .conditionOfNonScalar)
      else
        keepingJoins (resolveCounted schema template values) >>= fun text =>
          modify (withCondition ⟨connector, .template text, values⟩) := by
  unfold addCondition resolveCounted
  split
  · rfl
  · split
    · rfl
    -- Counting comes after resolving, and inside what restores the joins.
    · refine congrArg (fun w => keepingJoins w >>= fun text =>
        modify (withCondition ⟨connector, .template text, values⟩)) ?_
      refine congrArg (resolveTemplate schema template >>= ·) (funext fun text => ?_)
      dsimp only
      split <;> rfl

/-! ### What every change keeps -/

/-- The criteria is one of `root` with the given settings, its parts are
sound, and its joins have `J`. -/
structure Sound (schema : Schema ι) (root : ι) (settings : QuerySettings)
    (J : JoinRegistry ι → Prop) (c : Criteria ι) : Prop where
  root_eq : c.root = root
  depth_eq : c.joinMaxDepth = settings.joinMaxDepth
  marker_eq : c.marker = settings.conditionMarker
  conditions : ∀ condition ∈ c.conditions, condition.Sound schema
  orders : ∀ order ∈ c.orders, schema.HasColumn order.column.column
  groupings : ∀ column ∈ c.groupings, schema.HasColumn column.column
  joins : J c.joins

section Kept
variable {schema : Schema ι} {root : ι} {settings : QuerySettings}
  {D : List String → Prop} {J : JoinRegistry ι → Prop}

/-- A new criteria is sound if having no joins is. -/
theorem sound_new (hempty : J .empty) : Sound schema root settings J (new root settings) where
  root_eq := rfl
  depth_eq := rfl
  marker_eq := rfl
  conditions := List.forall_mem_nil _
  orders := List.forall_mem_nil _
  groupings := List.forall_mem_nil _
  joins := hempty

/-- Soundness depends on the joins by their own part only. -/
theorem Sound.withJoins {c : Criteria ι} {joins : JoinRegistry ι}
    (h : Sound schema root settings J c) (hj : J joins) :
    Sound schema root settings J { c with joins := joins } :=
  { h with joins := hj }

/-- Soundness is kept with one more condition, if that is sound. -/
theorem Sound.withCondition {c : Criteria ι} {condition : Condition}
    (h : Sound schema root settings J c) (hc : condition.Sound schema) :
    Sound schema root settings J (c.withCondition condition) where
  root_eq := h.root_eq
  depth_eq := h.depth_eq
  marker_eq := h.marker_eq
  conditions := List.forall_mem_append.mpr ⟨h.conditions, List.forall_mem_singleton.mpr hc⟩
  orders := h.orders
  groupings := h.groupings
  joins := h.joins

variable (hJ : ∀ path, D path →
  Work.Keeps J (JoinRegistry.resolve schema root settings.joinMaxDepth path))
  (hD : ∀ path, DotFree path → D path)
include hJ hD

/-- Resolving names and putting the joins back leave a sound criteria
sound. -/
theorem resolvable_sound : Resolvable schema D (Sound schema root settings J) where
  dotFree := hD
  resolve path hpath c hc := by
    rw [hc.root_eq, hc.depth_eq]
    exact Work.keeps_within (fun c h => h.joins) (hJ path hpath) fun c joins h hj => h.withJoins hj
  restore _ _ h h' := h'.withJoins h.joins

/-- Adding a filter keeps a criteria sound. -/
theorem keeps_addFilter (connector : Connector) (field : String) (comparison : Comparison)
    (value : Value) :
    Work.Keeps (Sound schema root settings J)
      (addFilter schema connector field comparison value) := by
  -- What a comparison needs is known of the values before the field is resolved.
  have hvalues : Work.Returns (fun values : List Value => comparison ≠ .membership →
      values.length = 1) (Work.ofResult (σ := Criteria ι) (filterValues field comparison value)) :=
    Work.returns_ofResult fun values h => filterValues_length h
  refine Work.keeps_bind_of_returns (Work.keeps_ofResult _) hvalues fun values hlength => ?_
  refine Work.keeps_bind_of_returns ((resolvable_sound hJ hD).resolveField field)
    (resolveField_returns schema field) fun column hcolumn => ?_
  exact Work.keeps_modify fun c hc => hc.withCondition ⟨hcolumn, hlength⟩

/-- Adding a template keeps a criteria sound. -/
theorem keeps_addCondition (connector : Connector) (template : String) (values : List Value) :
    Work.Keeps (Sound schema root settings J)
      (addCondition schema connector template values) := by
  -- What is counted is the resolved text, not the template.
  have htext : Work.Returns (fun text => Template.placeholders text = values.length)
      (resolveCounted schema template values) := by
    refine Work.returns_bind (R := fun _ => True) (fun _ _ _ _ => trivial) fun text _ => ?_
    split
    · exact Work.returns_fail _
    · rename_i hcount
      exact Work.returns_pure (not_ne_iff.mp hcount)
  have hkeeps : Work.Keeps (Sound schema root settings J)
      (resolveCounted schema template values) := by
    refine Work.keeps_bind ((resolvable_sound hJ hD).resolveTemplate template) fun text => ?_
    split
    · exact Work.keeps_fail _
    · exact Work.keeps_pure _
  rw [addCondition_eq]
  split
  · exact Work.keeps_fail _
  · split
    · exact Work.keeps_fail _
    · -- The text that is added is the one whose placeholders were counted.
      refine Work.keeps_bind_of_returns ((resolvable_sound hJ hD).keepingJoins hkeeps)
        (Work.returns_undoing htext) fun text hcount => ?_
      exact Work.keeps_modify fun c hc => hc.withCondition hcount

omit hJ hD in
/-- Setting the page keeps a criteria sound. -/
theorem keeps_setPage (number : UInt64) :
    Work.Keeps (Sound (ι := ι) schema root settings J) (setPage number) := by
  refine Work.keeps_get_bind fun c hc => ?_
  split
  · exact Work.keeps_fail _
  · refine Work.keeps_bind (Work.keeps_ofResult _) fun paging => ?_
    exact Work.keeps_modify fun c hc => { hc with }

/-- A change of a sound criteria makes a sound one, whether it fails or
not. -/
theorem Change.keeps_sound (hempty : J .empty) {change : Change} (hpaths : change.OnPaths D) :
    Work.Keeps (Sound schema root settings J) (change.work schema) := by
  cases change with
  | filter connector field comparison value =>
      exact keeps_addFilter hJ hD connector field comparison value
  | condition connector template values =>
      exact keeps_addCondition hJ hD connector template values
  | order field direction =>
      -- The order is by the column that the field was resolved to.
      refine Work.keeps_bind_of_returns ((resolvable_sound hJ hD).resolveField field)
        (resolveField_returns schema field) fun column hcolumn => ?_
      refine Work.keeps_modify fun c hc => { hc with orders := ?_ }
      exact List.forall_mem_append.mpr ⟨hc.orders, List.forall_mem_singleton.mpr hcolumn⟩
  | grouping field =>
      refine Work.keeps_bind_of_returns ((resolvable_sound hJ hD).resolveField field)
        (resolveField_returns schema field) fun column hcolumn => ?_
      refine Work.keeps_modify fun c hc => { hc with groupings := ?_ }
      exact List.forall_mem_append.mpr ⟨hc.groupings, List.forall_mem_singleton.mpr hcolumn⟩
  | fetchPath path => exact (resolvable_sound hJ hD).fetchPath hpaths
  | fetch path => exact (resolvable_sound hJ hD).fetchPath (hD _ (dotFree_splitPath path))
  | fetches paths => exact (resolvable_sound hJ hD).addFetches paths
  | resolve name =>
      exact Work.keeps_bind ((resolvable_sound hJ hD).resolveField name) fun column =>
        Work.keeps_pure _
  | page number => exact keeps_setPage number
  | limit _ | paging _ | suspendLimits | restoreLimits _ | clearLimit | clearPaging =>
      exact Work.keeps_modify fun c hc => { hc with }
  -- What is cleared has nothing left to be unsound.
  | clearConditions =>
      exact Work.keeps_modify fun c hc => { hc with conditions := List.forall_mem_nil _ }
  | clearOrders =>
      exact Work.keeps_modify fun c hc => { hc with orders := List.forall_mem_nil _ }
  | clearGroupings =>
      exact Work.keeps_modify fun c hc => { hc with groupings := List.forall_mem_nil _ }
  | clearFetches => exact Work.keeps_modify fun c hc => hc.withJoins hempty
  | clear =>
      exact Work.keeps_modify fun c hc =>
        { hc with
          conditions := List.forall_mem_nil _
          orders := List.forall_mem_nil _
          groupings := List.forall_mem_nil _
          joins := hempty }
  | rowSelection =>
      exact Work.keeps_modify fun c hc =>
        { hc with
          orders := List.forall_mem_nil _
          groupings := List.forall_mem_nil _ }

/-- Every criteria that a program reaches is sound. -/
theorem run_sound (hempty : J .empty) {c : Criteria ι} (hc : Sound schema root settings J c)
    {changes : List Change} (hpaths : ∀ change ∈ changes, change.OnPaths D) :
    Sound schema root settings J (run schema c changes) := by
  induction changes generalizing c with
  | nil => exact hc
  | cons change changes ih =>
      refine ih ?_ fun other ho => hpaths other (by simp [ho])
      exact Change.keeps_sound hJ hD hempty (hpaths change (by simp)) c hc

end Kept

/-! ### Limits that are set aside -/

/-- A criteria whose limits are set aside for a moment gets them back. -/
theorem exec_limitedTo {α : Type} (c : Criteria ι) (limit : Option UInt64)
    (build : Criteria ι → α) :
    (limitedTo limit build).exec c = (.ok (build (c.suspendLimits.setLimit limit)), c) := by
  have hback : restoreLimits c.limits (c.suspendLimits.setLimit limit) = c := by
    obtain ⟨_, _, _, _, _, _, _, _, paging⟩ := c
    cases paging <;> rfl
  show (Except.ok _, restoreLimits c.limits (c.suspendLimits.setLimit limit)) = _
  rw [hback]

end Criteria

end DataAccess
