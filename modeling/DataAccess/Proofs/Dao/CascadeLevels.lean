import DataAccess.Proofs.Dao.Protocol

/-!
# `DataAccess.Proofs.Dao.CascadeLevels`: how deep a cascade goes

A cascading delete follows rows to the rows that depend on them, and those
may depend on each other. What ends it is a limit: dependents of dependents
are looked for only so many levels below the root.

`Dao.deleteDependentsAt` is the deletion of dependents told the level that
it is on, from one on, and refuses to go beyond the limit; what it sends is
noted down with that level. `Dao.deleteCascadeAt` is a cascading delete made
of it, on level zero. It ends since every level is nearer to the limit, and
it does what the cascading delete does (`confined_deleteCascadeAt`), which
counts the levels that are left. What it sends is `Confined`: there is
nothing beyond the limit, and no more statements than the links between the
types allow.
-/

set_option autoImplicit false

namespace DataAccess

variable {σ ι ε κ τ S T α β : Type}

/-! ### A cascade that knows its level -/

/-- Work of which nothing is noted down. -/
def Session.unnoted (w : Work (Session σ) α) : Work (Session (Recorded κ σ)) α :=
  Work.of fun s =>
    let (result, t) := w.exec s.erased
    (result, ⟨t.units, ⟨s.world.log, t.world⟩⟩)

namespace Dao

/-- Access to the same entities, where what is asked of the source is noted
down with a level. What the hooks around deletes do is not. -/
def atLevel (dao : Dao σ ι ε) (level : Nat) : Dao (Recorded (Nat × Event) σ) ι ε where
  db := dao.db.noted fun event => (level, event)
  model := dao.model
  kind := dao.kind
  hooks := {
    beforeDelete criteria := Session.unnoted (dao.hooks.beforeDelete criteria)
    afterDelete criteria success := Session.unnoted (dao.hooks.afterDelete criteria success) }

variable [DecidableEq ι]

/-- Deletes the entities of a type whose field `joinField` points at one of
the given entities, and before them those that point at them, on a level
and on the levels below it. -/
def deleteDependentsAt (dao : Dao σ ι ε) (level : Nat) (kind : ι) (joinField : String)
    (parents : List Int64) : Work (Session (Recorded (Nat × Event) σ)) Unit := do
  if parents.isEmpty then return
  else
    if beyond : dao.db.settings.joinMaxDepth < level then
      Work.fail (.configuration
        (.cascadeTooDeep (dao.model.schema kind).table dao.db.settings.joinMaxDepth))
    else do
      let criteria ← Work.ofResult (dao.membershipCriteria kind joinField parents)
      let select ← Work.ofResult (dao.selectIds criteria)
      let ids ← (dao.atLevel level).fetchIds select
      (dependentLinks dao.model.schema kind).forM fun link =>
        deleteDependentsAt dao (level + 1) link.1 link.2 ids
      let _ ← (dao.atLevel level).db.execute (criteria.delete dao.model.schema)
termination_by dao.db.settings.joinMaxDepth + 1 - level

/-- Deletes the entities whose identities a statement reads on level zero,
and before them those that point at them, from level one on. -/
def deleteCascadeRowsAt (dao : Dao σ ι ε) (select : Statement) :
    Work (Session (Recorded (Nat × Event) σ)) UInt64 := do
  let ids ← (dao.atLevel 0).fetchIds select
  if ids.isEmpty then return 0
  else
    (dependentLinks dao.model.schema dao.kind).forM fun link =>
      dao.deleteDependentsAt 1 link.1 link.2 ids
    let identity ← Work.ofResult dao.declaration.identityField
    let roots ← Work.ofResult (dao.membershipCriteria dao.kind identity.name ids)
    let written ← (dao.atLevel 0).db.execute (roots.delete dao.model.schema)
    return written.rows

/-- Deletes all entities of a criteria and those that depend on them, level
by level. -/
def deleteCascadeAt (dao : Dao σ ι ε) :
    Work (Criteria ι × Session (Recorded (Nat × Event) σ)) UInt64 := do
  let select ← Database.onSubject (Criteria.limitedTo none dao.selectIds)
  let select ← Work.ofResult select
  let (criteria, _) ← get
  Database.onSession ((dao.atLevel 0).deleting criteria (dao.deleteCascadeRowsAt select))

/-! ### What it sends -/

/-- The most statements of a cascade through so many levels, if no type has
more than `width` links to dependents. -/
def cascadeBudget (width : Nat) : Nat → Nat
  | 0 => 0
  | depth + 1 => 2 + width * cascadeBudget width depth

/-- What is noted down is on a level from `level` on, and none beyond the
limit; there are at most so many statements, if no type has more than
`width` links to dependents. -/
structure Confined (dao : Dao σ ι ε) (level : Nat) (count : Nat → Nat)
    (added : List (Nat × Event)) : Prop where
  below : ∀ entry ∈ added, level ≤ entry.1
  within : ∀ entry ∈ added, entry.1 ≤ dao.db.settings.joinMaxDepth
  few : ∀ width, (∀ kind, (dependentLinks dao.model.schema kind).length ≤ width) →
    added.countP (·.2.isStatement) ≤ count width

namespace Confined

variable {dao : Dao σ ι ε} {level level' : Nat} {count count' : Nat → Nat}
  {added later : List (Nat × Event)}

/-- Where nothing was sent there is nothing to be confined. -/
theorem nil : Confined dao level count [] where
  below := by simp
  within := by simp
  few := by simp

/-- The bounds may be looser. -/
theorem mono (h : Confined dao level count added) (hlevel : level' ≤ level)
    (hcount : ∀ width, (∀ kind, (dependentLinks dao.model.schema kind).length ≤ width) →
      count width ≤ count' width) : Confined dao level' count' added where
  below entry hentry := hlevel.trans (h.below entry hentry)
  within := h.within
  few width hwidth := (h.few width hwidth).trans (hcount width hwidth)

/-- One piece after another needs the sum of what each of them needs. -/
theorem append (h : Confined dao level count added) (h' : Confined dao level count' later) :
    Confined dao level (fun width => count width + count' width) (added ++ later) where
  below := List.forall_mem_append.mpr ⟨h.below, h'.below⟩
  within := List.forall_mem_append.mpr ⟨h.within, h'.within⟩
  few width hwidth := by
    rw [List.countP_append]
    exact Nat.add_le_add (h.few width hwidth) (h'.few width hwidth)

/-- What is noted down on one level. -/
theorem of_events {events : List Event} (hlevel : level ≤ dao.db.settings.joinMaxDepth)
    (hcount : ∀ width, events.countP Event.isStatement ≤ count width) :
    Confined dao level count (events.map fun event => (level, event)) where
  below := by simp
  within := by simpa using fun _ _ => hlevel
  few width _ := by
    rw [List.countP_map]
    exact hcount width

/-- Openings and closings are no statements. -/
theorem of_unstated {events : List Event} (hlevel : level ≤ dao.db.settings.joinMaxDepth)
    (hevents : ∀ event ∈ events, event.isStatement = false) :
    Confined dao level (fun _ => 0) (events.map fun event => (level, event)) := by
  refine .of_events hlevel fun width => ?_
  rw [Nat.le_zero, List.countP_eq_zero]
  simpa using hevents

end Confined

/-! ### The two cascades -/

section Tracks
variable {dao : Dao σ ι ε} {level : Nat} {count count' : Nat → Nat}

open Tracks

/-- What one piece of work sends, and then another one. -/
theorem confined_bind {v : View S T σ (Nat × Event)} {noted : Work S α} {w : Work T α}
    {noted' : α → Work S β} {w' : α → Work T β}
    (h : Tracks v (fun _ _ added _ => Confined dao level count added) noted w)
    (h' : ∀ a, Tracks v (fun _ _ added _ => Confined dao level count' added) (noted' a) (w' a)) :
    Tracks v (fun _ _ added _ => Confined dao level (fun width => count width + count' width) added)
      (noted >>= noted') (w >>= w') :=
  h.bind h' (fun _ _ _ _ hadded => hadded.mono le_rfl fun _ _ => Nat.le_add_right _ _)
    fun _ _ _ _ _ _ _ hadded hlater => hadded.append hlater

/-- So it is with tracked work. -/
theorem confined_mono {v : View S T σ (Nat × Event)} {level' : Nat} {noted : Work S α}
    {w : Work T α} (h : Tracks v (fun _ _ added _ => Confined dao level count added) noted w)
    (hlevel : level' ≤ level)
    (hcount : ∀ width, (∀ kind, (dependentLinks dao.model.schema kind).length ≤ width) →
      count width ≤ count' width) :
    Tracks v (fun _ _ added _ => Confined dao level' count' added) noted w :=
  h.mono fun _ _ _ _ hadded => hadded.mono hlevel hcount

/-- Around the work nothing is sent. -/
theorem confined_enclosed {v : View S T σ (Nat × Event)} {opening : Work S Unit}
    {opening' : Work T Unit} {closing : Bool → Work S Unit} {closing' : Bool → Work T Unit}
    {noted : Work S α} {w : Work T α}
    (hopening : Tracks v (fun _ _ added _ => Confined dao level (fun _ => 0) added)
      opening opening')
    (hclosing : ∀ success, Tracks v (fun _ _ added _ => Confined dao level (fun _ => 0) added)
      (closing success) (closing' success))
    (h : Tracks v (fun _ _ added _ => Confined dao level count added) noted w) :
    Tracks v (fun _ _ added _ => Confined dao level count added)
      (Work.enclosed opening closing noted) (Work.enclosed opening' closing' w) := by
  have hconcluded : Tracks v (fun _ _ added _ => Confined dao level count added)
      (noted.concluding closing) (w.concluding closing') :=
    h.concluding hclosing fun _ _ _ _ _ _ _ hadded hlater => hadded.append hlater
  exact confined_mono (confined_bind hopening fun _ => hconcluded) le_rfl fun _ _ => by simp

/-- One statement on a level. -/
theorem confined_sends (hlevel : level ≤ dao.db.settings.joinMaxDepth)
    {event : ConnectionId → Result α → Event} {noted : Work (Session (Recorded (Nat × Event) σ)) α}
    {w : Work (Session σ) α}
    (h : Tracks View.alone (SendsOne (fun event => (level, event)) event) noted w) :
    Tracks View.alone (fun _ _ added _ => Confined dao level (fun _ => 1) added) noted w := by
  refine h.mono ?_
  rintro u u' added result ⟨-, events, rfl, hsends⟩
  refine .of_events hlevel fun _ => List.countP_le_length.trans ?_
  generalize u.connection = connection at hsends
  cases hsends <;> simp

/-- The identities are read by one statement of the level. -/
theorem confined_fetchIds (hlevel : level ≤ dao.db.settings.joinMaxDepth) (select : Statement) :
    Tracks View.alone (fun _ _ added _ => Confined dao level (fun _ => 1) added)
      ((dao.atLevel level).fetchIds select) (dao.fetchIds select) := by
  have hread : ∀ rows : List Row, Tracks (View.alone (σ := σ))
      (fun _ _ added _ => Confined dao level (fun _ => 0) added)
      (Work.ofResult (readIds rows)) (Work.ofResult (readIds rows)) :=
    fun rows => .ofResult fun _ => .nil
  exact confined_bind (confined_sends hlevel (Tracks.fetch _ dao.db select)) hread

/-- A deletion is one statement of the level. -/
theorem confined_execute (hlevel : level ≤ dao.db.settings.joinMaxDepth) (statement : Statement) :
    Tracks View.alone (fun _ _ added _ => Confined dao level (fun _ => 1) added)
      ((dao.atLevel level).db.execute statement) (dao.db.execute statement) :=
  confined_sends hlevel (Tracks.execute _ dao.db statement)

/-- To return something sends nothing. -/
theorem confined_pure {v : View S T σ (Nat × Event)} (a : α) :
    Tracks v (fun _ _ added _ => Confined dao level (fun _ => 0) added) (pure a) (pure a) :=
  .pure fun _ => .nil

/-- What cannot be made out is not sent. -/
theorem confined_ofResult_bind {v : View S T σ (Nat × Event)} {r : Result α}
    {noted : α → Work S β} {w : α → Work T β}
    (h : ∀ a, Tracks v (fun _ _ added _ => Confined dao level count added) (noted a) (w a)) :
    Tracks v (fun _ _ added _ => Confined dao level count added)
      (Work.ofResult r >>= noted) (Work.ofResult r >>= w) := by
  cases r with
  | error e => exact .fail fun _ => .nil
  | ok a => exact h a

/-- Work on one link after another. -/
theorem confined_forM {v : View S T σ (Nat × Event)} {noted : α → Work S PUnit}
    {w : α → Work T PUnit} (xs : List α)
    (h : ∀ x, Tracks v (fun _ _ added _ => Confined dao level count added) (noted x) (w x)) :
    Tracks v (fun _ _ added _ => Confined dao level (fun width => xs.length * count width) added)
      (xs.forM noted) (xs.forM w) := by
  induction xs with
  | nil => exact .pure fun _ => .nil
  | cons x xs ih =>
      refine confined_mono (confined_bind (h x) fun _ => ih) le_rfl fun width _ => ?_
      rw [List.length_cons, Nat.succ_mul, Nat.add_comm]

/-- The deletion of dependents on the links of a type. -/
theorem confined_links {level' : Nat} (kind : ι) (hlevel : level' ≤ level)
    {noted : ι × String → Work (Session (Recorded (Nat × Event) σ)) PUnit}
    {w : ι × String → Work (Session σ) PUnit}
    (h : ∀ link, Tracks View.alone (fun _ _ added _ => Confined dao level count added)
      (noted link) (w link)) :
    Tracks View.alone
      (fun _ _ added _ => Confined dao level' (fun width => width * count width) added)
      ((dependentLinks dao.model.schema kind).forM noted)
      ((dependentLinks dao.model.schema kind).forM w) :=
  confined_mono (confined_forM _ h) hlevel fun _ hwidth => Nat.mul_le_mul_right _ (hwidth kind)

/-- The level counts up where the deletion of dependents counts down. -/
theorem confined_deleteDependentsAt {depth : Nat}
    (hdepth : level + depth = dao.db.settings.joinMaxDepth + 1) (kind : ι) (joinField : String)
    (parents : List Int64) :
    Tracks View.alone
      (fun _ _ added _ => Confined dao level (fun width => cascadeBudget width depth) added)
      (dao.deleteDependentsAt level kind joinField parents)
      (dao.deleteDependents depth kind joinField parents) := by
  induction depth generalizing level kind joinField parents with
  | zero =>
      rw [deleteDependentsAt, deleteDependents]
      split
      · exact .pure fun _ => .nil
      · rw [dif_pos (by omega)]
        exact .fail fun _ => .nil
  | succ depth ih =>
      rw [deleteDependentsAt, deleteDependents]
      split
      · exact .pure fun _ => .nil
      have hlevel : level ≤ dao.db.settings.joinMaxDepth := by omega
      rw [dif_neg (by omega)]
      refine confined_ofResult_bind fun criteria => confined_ofResult_bind fun select => ?_
      -- One statement reads and one deletes; what is between them is a level further.
      have hstatements := confined_bind (confined_fetchIds hlevel select) fun ids =>
        confined_bind (confined_links kind (Nat.le_succ level) fun link =>
          ih (by omega) link.1 link.2 ids) fun _ =>
          confined_bind (confined_execute hlevel (criteria.delete dao.model.schema)) fun _ =>
            confined_pure ()
      refine confined_mono hstatements le_rfl fun width _ => ?_
      rw [cascadeBudget]
      omega

/-- The roots are at level zero, and what depends on them one level further
down. -/
theorem confined_deleteCascadeRowsAt (dao : Dao σ ι ε) (select : Statement) :
    Tracks View.alone (fun _ _ added _ => Confined dao 0
        (fun width => cascadeBudget width (dao.db.settings.joinMaxDepth + 1)) added)
      (dao.deleteCascadeRowsAt select) (dao.deleteCascadeRows select) := by
  have hlevel : 0 ≤ dao.db.settings.joinMaxDepth := Nat.zero_le _
  let count (width : Nat) := width * cascadeBudget width dao.db.settings.joinMaxDepth + 1
  refine confined_mono (confined_bind (confined_fetchIds hlevel select) fun ids =>
    (?_ : Tracks View.alone (fun _ _ added _ => Confined dao 0 count added) _ _)) le_rfl
    fun width _ => ?_
  · by_cases hids : ids.isEmpty = true
    · simp only [hids, if_true]
      exact .pure fun _ => .nil
    simp only [hids]
    -- One statement for the roots, those of the links, and one for the deletion.
    refine confined_bind (confined_links dao.kind (Nat.zero_le 1) fun link =>
      confined_deleteDependentsAt (by omega) link.1 link.2 ids) fun _ => ?_
    refine confined_ofResult_bind fun identity => confined_ofResult_bind fun roots => ?_
    refine confined_mono (confined_bind (confined_execute hlevel _) fun written =>
      confined_pure written.rows) le_rfl fun _ _ => le_rfl
  · simp only [cascadeBudget, count]
    omega

/-- Work that is not noted adds nothing. -/
theorem confined_unnoted (w : Work (Session σ) α) :
    Tracks View.alone (fun _ _ added _ => Confined dao level count added)
      (Session.unnoted w) w :=
  fun _ => ⟨[], rfl, (List.append_nil _).symm, .nil⟩

/-- The cascade by levels is the cascading delete, and what it sends is
confined. -/
theorem confined_deleteCascadeAt (dao : Dao σ ι ε) :
    Tracks View.beside (fun _ _ added _ => Confined dao 0
        (fun width => cascadeBudget width (dao.db.settings.joinMaxDepth + 1)) added)
      dao.deleteCascadeAt dao.deleteCascadeByCriteria := by
  have hlevel : 0 ≤ dao.db.settings.joinMaxDepth := Nat.zero_le _
  have hopening : Tracks View.alone (fun _ _ added _ => Confined dao 0 (fun _ => 0) added)
      (dao.atLevel 0).db.openTransaction dao.db.openTransaction := by
    refine (opens _ dao.db (some dao.db.settings.isolation)).mono ?_
    rintro u u' added result ⟨events, rfl, hopens⟩
    exact .of_unstated hlevel hopens.unstated
  have hclosing : ∀ success, Tracks View.alone
      (fun _ _ added _ => Confined dao 0 (fun _ => 0) added)
      ((dao.atLevel 0).db.closeTransaction success) (dao.db.closeTransaction success) := by
    intro success
    refine (closeUnit _ dao.db (some success)).mono ?_
    rintro u u' added result ⟨events, late, rfl, hcloses, -⟩
    exact .of_unstated hlevel hcloses.unstated
  -- The statement for the roots is made of the criteria alone.
  have hsubject : Tracks (View.beside (σ := σ))
      (fun _ _ added _ => Confined dao 0 (fun _ => 0) added)
      (Database.onSubject (Criteria.limitedTo none dao.selectIds))
      (Database.onSubject (Criteria.limitedTo none dao.selectIds)) :=
    .onSubject fun _ _ => .nil
  refine confined_mono (confined_bind hsubject fun select => confined_ofResult_bind fun select =>
    ?_) le_rfl fun width _ => (Nat.zero_add _).le
  refine subject_bind fun criteria s s' => .onSession ?_
  -- The hooks do not count: only the work of the cascade is noted.
  have hwork := confined_enclosed (confined_unnoted (dao.hooks.beforeDelete criteria))
    (fun success => confined_unnoted (dao.hooks.afterDelete criteria success))
    (confined_deleteCascadeRowsAt dao select)
  refine confined_enclosed hopening hclosing ?_
  refine (hwork.mapError (f := .inOperation "deletion")).mono ?_
  rintro u u' added result ⟨own, hadded, -⟩
  exact hadded

end Tracks

end Dao

end DataAccess
