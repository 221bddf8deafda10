import DataAccess.Dao.Delete
import DataAccess.Dao.Load
import DataAccess.Proofs.Dao.Course
import DataAccess.Proofs.Dao.Program

/-!
# `DataAccess.Proofs.Dao.Protocol`: operations keep to their protocols

`Request` lists the operations with hooks, and `Request.protocol` says what
each of them is to do: its hooks, what they are told, and its statements,
with what is checked of what they bring. The statements of a cascading
delete are as many as there are dependents, so that of these it is only said
how they go (`Cascaded`).

`Request.run_protocol`: whatever the hooks do and however the source
answers, what happens is a course of the protocol, and the first thing that
goes wrong in it is the outcome.
-/

set_option autoImplicit false

namespace DataAccess

variable {σ ι ε τ S T α β : Type}

/-! ### Statements -/

/-- A statement that was to write. -/
def Database.executing (db : Database σ) (st : Statement) (c : ConnectionId)
    (result : Result Written) : Event :=
  .execute c ⟨db.dialect, st⟩ result

/-- A statement that was to read. -/
def Database.fetching (db : Database σ) (st : Statement) (c : ConnectionId)
    (result : Result (List Row)) : Event :=
  .fetch c ⟨db.dialect, st⟩ result

namespace Dao

/-- A new entity has to get a key. -/
def keyed (dao : Dao σ ι ε) (e : ε) (written : Written) : Result Unit :=
  if dao.model.isNew e then
    match written.generatedKey with
    | some _ => .ok ()
    | none => .error (.execution "insertion" "the database reported no generated key")
  else .ok ()

/-- The statement that updates the row of an identity. -/
def updateStatement (dao : Dao σ ι ε) (id : Int64) (e : ε) : Result Statement := do
  let fields ← dao.updateFieldsOf e
  let criteria ← dao.idCriteria id
  return criteria.update dao.model.schema fields

/-- The identities in rows. -/
def readIds (rows : List Row) : Result (List Int64) :=
  rows.mapM fun row => do
    let id ← row.at? 0
    id.as Int64

/-- Deletes the entities of some identities, and before them those that
depend on them. -/
def deleteRoots [DecidableEq ι] (dao : Dao σ ι ε) (ids : List Int64) :
    Work (Session σ) UInt64 := do
  if ids.isEmpty then return 0
  else
    (dependentLinks dao.model.schema dao.kind).forM fun link =>
      dao.deleteDependents dao.db.settings.joinMaxDepth link.1 link.2 ids
    let identity ← Work.ofResult dao.declaration.identityField
    let roots ← Work.ofResult (dao.membershipCriteria dao.kind identity.name ids)
    let written ← dao.db.execute (roots.delete dao.model.schema)
    return written.rows

/-- Why a cascading delete does not go on by itself. -/
inductive Refuses (dao : Dao σ ι ε) : Error → Prop where
  | criteria {kind : ι} {field : String} {ids : List Int64} {e : Error}
      (h : dao.membershipCriteria kind field ids = .error e) : dao.Refuses e
  | select {criteria : Criteria ι} {e : Error} (h : dao.selectIds criteria = .error e) :
      dao.Refuses e
  | identity {e : Error} (h : dao.declaration.identityField = .error e) : dao.Refuses e
  | tooDeep (table : String) :
      dao.Refuses (.configuration (.cascadeTooDeep table dao.db.settings.joinMaxDepth))

end Dao

/-- What is wrong with a statement of a cascading delete: it fails, or the
rows that it reads are no identities. -/
def Event.flaw? : Event → Option Error
  | .fetch _ _ result => (result >>= Dao.readIds).failure?
  | e => e.failure?

/-- How the statements of a cascading delete go: the first one that has a
flaw is the last one. -/
inductive Cascaded (dao : Dao σ ι ε) (connection : Option ConnectionId) :
    List Event → Option Error → Prop where
  | done : Cascaded dao connection [] none
  | refused {e : Error} (h : dao.Refuses e) : Cascaded dao connection [] (some e)
  | unsent (h : connection = none) :
      Cascaded dao connection [] (some (.connection .notOpen))
  | failed {c : ConnectionId} {event : Event} {e : Error} (on : connection = some c)
      (stated : Stated c event) (flaw : event.flaw? = some e) :
      Cascaded dao connection [event] (some e)
  | passed {c : ConnectionId} {event : Event} {events : List Event} {failure : Option Error}
      (on : connection = some c) (stated : Stated c event) (sound : event.flaw? = none)
      (rest : Cascaded dao connection events failure) :
      Cascaded dao connection (event :: events) failure

namespace Cascaded

variable {dao : Dao σ ι ε} {connection : Option ConnectionId} {events later : List Event}

/-- Statements of a cascade come one after another, up to the first with a
flaw. -/
theorem append {failure : Option Error} (h : Cascaded dao connection events none)
    (h' : Cascaded dao connection later failure) :
    Cascaded dao connection (events ++ later) failure := by
  generalize hnone : (none : Option Error) = first at h
  induction h with
  | done => exact h'
  | refused | unsent | failed => cases hnone
  | passed on stated sound _ ih => exact .passed on stated sound (ih hnone)

/-- Statements without a flaw did not fail. -/
theorem unfailing {failure : Option Error} (h : Cascaded dao connection events failure)
    (hnone : failure = none) : ∀ event ∈ events, event.failure? = none := by
  have hsound {event : Event} (h : event.flaw? = none) : event.failure? = none := by
    cases event with
    | fetch c command result =>
        cases result with
        | ok rows => rfl
        | error e => cases h
    | _ => exact h
  -- On the statements: only the last one can have a flaw, and then the cascade has
  -- failed.
  induction h with
  | done => simp
  | refused | unsent | failed => cases hnone
  | passed _ _ sound _ ih => exact List.forall_mem_cons.mpr ⟨hsound sound, ih hnone⟩

/-- One statement, with or without a flaw. -/
theorem single {c : ConnectionId} {event : Event} (stated : Stated c event) :
    Cascaded dao (some c) [event] event.flaw? := by
  cases hflaw : event.flaw? with
  | none => exact .passed rfl stated hflaw .done
  | some e => exact .failed rfl stated hflaw

end Cascaded

namespace Dao

variable (dao : Dao σ ι ε)

/-- A dao that notes its acts notes the events of its database. -/
@[simp] theorem noted_db : dao.noted.db = dao.db.noted .event := rfl

/-- Noting changes nothing in the model. -/
@[simp] theorem noted_model : dao.noted.model = dao.model := rfl

/-- Noting changes nothing in the declaration. -/
@[simp] theorem noted_declaration : dao.noted.declaration = dao.declaration := rfl

/-- Noting does not change the type. -/
@[simp] theorem noted_kind : dao.noted.kind = dao.kind := rfl

/-- Noting does not change which fields are inserted. -/
@[simp] theorem noted_insertFields (e : ε) : dao.noted.insertFields e = dao.insertFields e := rfl

/-- Noting does not change which fields are updated. -/
@[simp] theorem noted_updateFieldsOf (e : ε) :
    dao.noted.updateFieldsOf e = dao.updateFieldsOf e := rfl

/-- Noting does not change the criteria for an identity. -/
@[simp] theorem noted_idCriteria (id : Int64) : dao.noted.idCriteria id = dao.idCriteria id := rfl

/-- Noting does not change the query for the identities. -/
@[simp] theorem noted_selectIds (criteria : Criteria ι) :
    dao.noted.selectIds criteria = dao.selectIds criteria := rfl

/-- Noting does not change the criteria for dependents. -/
@[simp] theorem noted_membershipCriteria (kind : ι) (field : String) (ids : List Int64) :
    dao.noted.membershipCriteria kind field ids = dao.membershipCriteria kind field ids := rfl

end Dao

/-! ### Protocols -/

namespace Protocol

/-- A save, with the hooks of all saves and its own. -/
def saving (dao : Dao σ ι ε) (operation : String) (before after : Hook)
    (statements : Option ConnectionId → List Event → Option Error → Prop) : Protocol ι ε where
  operation := operation
  level := some dao.db.settings.isolation
  before := [.beforeSave, before]
  after := [after, .afterSave]
  tellsBefore told := ∃ e, told = .saving e
  tellsAfter success told := ∃ e, told = .saved e success
  statements := statements

/-- An operation on the entities of a criteria. -/
def ofCriteria (criteria : Criteria ι) (operation : String) (level : Option Isolation)
    (before after : Hook) (statements : Option ConnectionId → List Event → Option Error → Prop) :
    Protocol ι ε where
  operation := operation
  level := level
  before := [before]
  after := [after]
  tellsBefore told := told = .using criteria
  tellsAfter success told := told = .used criteria success
  statements := statements

end Protocol

namespace Tracks

variable {dao : Dao σ ι ε}

/-! ### Saves -/

/-- A statement is sent as it is, and noted with its result. -/
theorem executing (db : Database σ) (st : Statement) :
    Tracks View.alone (SendsOne (Act.event (ι := ι) (ε := ε)) (db.executing st))
      ((db.noted .event).execute st) (db.execute st) :=
  execute Act.event db st

/-- A query sends one statement. -/
theorem fetching (db : Database σ) (st : Statement) :
    Tracks View.alone (SendsOne (Act.event (ι := ι) (ε := ε)) (db.fetching st))
      ((db.noted .event).fetch st) (db.fetch st) :=
  fetch Act.event db st

/-- A row is inserted, with what the entity holds then. -/
theorem insertRow (dao : Dao σ ι ε) :
    Tracks View.beside
      (SendsAll fun connection events failure => ∃ e,
        Single ((dao.insertFields e).map (.insert dao.declaration.table)) dao.db.executing
          (dao.keyed e) connection events failure)
      dao.noted.insertRow dao.insertRow := by
  unfold Dao.insertRow
  simp only [Dao.noted_db, Dao.noted_model, Dao.noted_declaration, Dao.noted_insertFields]
  -- The entity that is looked at is the one that the hooks before have left.
  refine subject_bind fun e s s' => ?_
  dsimp only
  refine sends_mono (P := Single ((dao.insertFields e).map (.insert dao.declaration.table))
    dao.db.executing (dao.keyed e)) ?_ fun connection events failure h => ⟨e, h⟩
  -- Without its fields no statement can be made, and none is sent.
  refine ofResult_bind (fun err herr u => ⟨rfl, [], rfl, .refused _ ?_⟩) fun fields hfields => ?_
  · rw [herr]
    rfl
  have hst : (dao.insertFields e).map (Statement.insert dao.declaration.table)
      = .ok (.insert dao.declaration.table fields) := by
    rw [hfields]
    rfl
  refine single hst (onSession (executing dao.db _)) fun written => ?_
  unfold Dao.keyed
  by_cases hnew : dao.model.isNew e = true
  · -- The key that was made is looked at only for a new entity.
    simp only [hnew, if_true]
    cases written.generatedKey with
    | some key => exact onSubject fun _ _ => ⟨rfl, rfl, rfl⟩
    | none => exact .fail fun _ => ⟨rfl, rfl, rfl⟩
  · simp only [hnew]
    exact .pure fun _ => ⟨rfl, rfl, rfl⟩

/-- The row of an identity is updated, with what the entity holds then. -/
theorem updateRow (dao : Dao σ ι ε) (id : Int64) :
    Tracks View.beside
      (SendsAll fun connection events failure => ∃ e,
        Single (dao.updateStatement id e) dao.db.executing
          (fun written => Dao.some? "updated" written.rows) connection events failure)
      (dao.noted.updateRow id) (dao.updateRow id) := by
  unfold Dao.updateRow
  simp only [Dao.noted_db, Dao.noted_model, Dao.noted_updateFieldsOf, Dao.noted_idCriteria]
  refine subject_bind fun e s s' => ?_
  dsimp only
  refine sends_mono (P := Single (dao.updateStatement id e) dao.db.executing
    fun written => Dao.some? "updated" written.rows) ?_
    fun connection events failure h => ⟨e, h⟩
  -- Both the fields and the criteria may be refused, before any statement.
  refine ofResult_bind (fun err herr u => ⟨rfl, [], rfl, .refused _ ?_⟩) fun fields hfields => ?_
  · rw [Dao.updateStatement, herr]
    rfl
  refine ofResult_bind (fun err herr u => ⟨rfl, [], rfl, .refused _ ?_⟩)
    fun criteria hcriteria => ?_
  · rw [Dao.updateStatement, hfields, herr]
    rfl
  have hst : dao.updateStatement id e = .ok (criteria.update dao.model.schema fields) := by
    rw [Dao.updateStatement, hfields, hcriteria]
    rfl
  refine single hst (onSession (executing dao.db _)) fun written => ?_
  exact .ofResult fun u => ⟨rfl, rfl, rfl⟩

/-! ### Deletes and reads -/

/-- Rows are written and counted. -/
theorem counted (db : Database σ) (st : Statement) :
    Tracks View.alone
      (SendsAll (ι := ι) (ε := ε) (Single (.ok st) db.executing fun written => .ok written.rows))
      (do
        let written ← (db.noted .event).execute st
        return written.rows)
      (do
        let written ← db.execute st
        return written.rows) :=
  single rfl (executing db st) fun _ => .pure fun _ => ⟨rfl, rfl, rfl⟩

/-- Rows are read and mapped. -/
theorem mapped (dao : Dao σ ι ε) (joins : JoinRegistry ι) (st : Statement) :
    Tracks View.alone
      (SendsAll (Single (.ok st) dao.db.fetching fun rows =>
        rows.mapM (dao.model.mapRow dao.kind joins)))
      (dao.noted.fetch joins st) (dao.fetch joins st) := by
  unfold Dao.fetch
  simp only [Dao.noted_db, Dao.noted_model, Dao.noted_kind]
  exact single rfl (fetching dao.db st) fun rows => .ofResult fun _ => ⟨rfl, rfl, rfl⟩

/-! ### Cascading deletes -/

section Cascades

/-- The statements of two pieces of work, if the second one runs. -/
theorem cascaded_bind {noted : Work S α} {w : Work T α} {noted' : α → Work S β}
    {w' : α → Work T β} {v : View S T σ (Act ι ε)} (h : Tracks v (SendsAll (Cascaded dao)) noted w)
    (h' : ∀ a, Tracks v (SendsAll (Cascaded dao)) (noted' a) (w' a)) :
    Tracks v (SendsAll (Cascaded dao)) (noted >>= noted') (w >>= w') := by
  refine h.bind h' (fun u u' added e h => h) ?_
  rintro _ _ u _ _ a result ⟨rfl, earlier, rfl, hearlier⟩ ⟨rfl, later, rfl, hlater⟩
  exact ⟨rfl, earlier ++ later, by simp, hearlier.append hlater⟩

/-- An error that is no flaw of a statement is one that a cascade may
refuse with. -/
theorem cascaded_ofResult {v : View S T σ (Act ι ε)} {r : Result α}
    (h : ∀ e, r = .error e → dao.Refuses e) :
    Tracks v (SendsAll (Cascaded dao)) (Work.ofResult r) (Work.ofResult r) := by
  cases r with
  | ok a => exact .ofResult fun u => ⟨rfl, [], rfl, .done⟩
  | error e => exact .ofResult fun u => ⟨rfl, [], rfl, .refused (h e rfl)⟩

/-- A deletion that fails is the last statement, and its error is the flaw. -/
theorem cascaded_execute (dao : Dao σ ι ε) (st : Statement) :
    Tracks View.alone (SendsAll (Cascaded dao)) (dao.noted.db.execute st)
      (dao.db.execute st) := by
  refine (executing dao.db st).mono ?_
  rintro _ u added result ⟨rfl, events, rfl, hsends⟩
  refine ⟨rfl, events, rfl, ?_⟩
  generalize u.connection = connection at hsends
  cases hsends with
  | unsent => exact .unsent rfl
  -- The result that is noted fails just if the statement has.
  | sent c =>
      have hflaw : (dao.db.executing st c result).flaw? = result.failure? := by
        cases result <;> rfl
      rw [← hflaw]
      exact .single (.execute _ _)

/-- Identities that cannot be read off are a flaw of the statement that
brought the rows. -/
theorem cascaded_fetchIds (dao : Dao σ ι ε) (select : Statement) :
    Tracks View.alone (SendsAll (Cascaded dao)) (dao.noted.fetchIds select)
      (dao.fetchIds select) := by
  have hread : Tracks View.alone
      (SendsAll (ι := ι) (ε := ε) (Single (.ok select) dao.db.fetching Dao.readIds))
      (dao.noted.fetchIds select) (dao.fetchIds select) := by
    unfold Dao.fetchIds
    simp only [Dao.noted_db]
    exact single rfl (fetching dao.db select) fun rows => .ofResult fun _ => ⟨rfl, rfl, rfl⟩
  refine hread.sends_mono fun connection events failure hsingle => ?_
  -- The statement itself is always there, so that it is sent if there is a
  -- connection.
  cases hsingle with
  | refused _ cannot => cases cannot
  | unsent => exact .unsent rfl
  | sent c result made =>
      cases made
      exact .single (.fetch _ _)

/-- By induction on the list, one cascade after another. -/
theorem cascaded_forM {v : View S T σ (Act ι ε)} {noted : α → Work S PUnit}
    {w : α → Work T PUnit} (xs : List α)
    (h : ∀ x, Tracks v (SendsAll (Cascaded dao)) (noted x) (w x)) :
    Tracks v (SendsAll (Cascaded dao)) (xs.forM noted) (xs.forM w) := by
  induction xs with
  | nil => exact .pure fun u => ⟨rfl, [], rfl, .done⟩
  | cons x xs ih => exact cascaded_bind (h x) fun _ => ih

variable [DecidableEq ι]

/-- However deep the dependents go, the first flaw is the last statement. -/
theorem cascaded_deleteDependents (dao : Dao σ ι ε) (depth : Nat) (kind : ι) (joinField : String)
    (parents : List Int64) :
    Tracks View.alone (SendsAll (Cascaded dao))
      (dao.noted.deleteDependents depth kind joinField parents)
      (dao.deleteDependents depth kind joinField parents) := by
  induction depth generalizing kind joinField parents with
  | zero =>
      rw [Dao.deleteDependents, Dao.deleteDependents]
      split
      · exact .pure fun u => ⟨rfl, [], rfl, .done⟩
      · exact .fail fun u => ⟨rfl, [], rfl, .refused (.tooDeep _)⟩
  -- At each level: the criteria, the identities, the links one type less deep, the
  -- deletion.
  | succ depth ih =>
      rw [Dao.deleteDependents, Dao.deleteDependents]
      simp only [Dao.noted_model, Dao.noted_selectIds, Dao.noted_membershipCriteria]
      split
      · exact .pure fun u => ⟨rfl, [], rfl, .done⟩
      · refine cascaded_bind (cascaded_ofResult fun e h => .criteria h) fun criteria => ?_
        refine cascaded_bind (cascaded_ofResult fun e h => .select h) fun select => ?_
        refine cascaded_bind (cascaded_fetchIds dao select) fun ids => ?_
        refine cascaded_bind (cascaded_forM _ fun link => ih link.1 link.2 ids) fun _ => ?_
        exact cascaded_bind (cascaded_execute dao _) fun _ =>
          .pure fun u => ⟨rfl, [], rfl, .done⟩

/-- The dependents of the roots go first, link by link, and then the roots. -/
theorem cascaded_deleteRoots (dao : Dao σ ι ε) (ids : List Int64) :
    Tracks View.alone (SendsAll (Cascaded dao)) (dao.noted.deleteRoots ids)
      (dao.deleteRoots ids) := by
  unfold Dao.deleteRoots
  simp only [Dao.noted_model, Dao.noted_kind, Dao.noted_declaration, Dao.noted_membershipCriteria]
  by_cases hids : ids.isEmpty = true
  · simp only [hids, if_true]
    exact .pure fun u => ⟨rfl, [], rfl, .done⟩
  · simp only [hids]
    -- After the links, the criteria for the roots and their deletion.
    refine cascaded_bind (cascaded_forM _ fun link =>
      cascaded_deleteDependents dao dao.db.settings.joinMaxDepth link.1 link.2 ids) fun _ => ?_
    refine cascaded_bind (cascaded_ofResult fun e h => .identity h) fun identity => ?_
    refine cascaded_bind (cascaded_ofResult fun e h => .criteria h) fun roots => ?_
    exact cascaded_bind (cascaded_execute dao _) fun written =>
      .pure fun u => ⟨rfl, [], rfl, .done⟩

/-- The roots are read, and then deleted with what depends on them. -/
theorem cascaded_deleteCascadeRows (dao : Dao σ ι ε) (select : Statement) :
    Tracks View.alone (SendsAll (Cascaded dao)) (dao.noted.deleteCascadeRows select)
      (dao.deleteCascadeRows select) :=
  cascaded_bind (cascaded_fetchIds dao select) (cascaded_deleteRoots dao)

end Cascades

/-! ### Units with hooks -/

/-- The hooks of a save and its statements. -/
theorem saving (dao : Dao σ ι ε) (operation : String) (hook hook' : Hook)
    {before : Work (ε × Session σ) Unit} {after : ε → Bool → Work (Session σ) Unit}
    (hbefore : dao.hooks.KeepsUnits → Interceptor.Steady (·.2.units) before)
    (hafter : dao.hooks.KeepsUnits → ∀ e success, Interceptor.Steady (·.units) (after e success))
    {statements : Option ConnectionId → List Event → Option Error → Prop}
    {noted : Work (ε × Session (Recorded (Act ι ε) σ)) Unit} {w : Work (ε × Session σ) Unit}
    (h : Tracks View.beside (SendsAll statements) noted w) :
    Tracks View.beside (Fills (.saving dao operation hook hook' statements) dao.hooks.KeepsUnits)
      (dao.noted.saving (Interceptor.notingSave hook before)
        (fun e success => Interceptor.noting hook' (.saved e success) (after e success)) noted)
      (dao.saving before after w) := by
  refine within (p := .saving dao operation hook hook' statements) ?_ h fun success => ?_
  · exact calls_bind (notingSave .beforeSave fun hkeeps => hkeeps.beforeSave) fun _ =>
      notingSave hook hbefore
  · refine subject_bind fun e s s' => ?_
    refine mono (P := Calls dao.hooks.KeepsUnits (fun t => t = .saved e success)
      ([hook'] ++ [.afterSave])) ?_ fun u u' added result hcalls =>
        ⟨.saved e success, ⟨e, rfl⟩, hcalls⟩
    exact calls_bind (onSession (noting hook' fun hkeeps => hafter hkeeps e success)) fun _ =>
      onSession (noting .afterSave fun hkeeps => hkeeps.afterSave e success)

/-- The hooks around the use of a criteria and its statements. -/
theorem aroundCriteria (dao : Dao σ ι ε) (criteria : Criteria ι) (operation : String)
    (level : Option Isolation) (hook hook' : Hook) {before : Work (Session σ) Unit}
    {after : Bool → Work (Session σ) Unit}
    (hbefore : dao.hooks.KeepsUnits → Interceptor.Steady (·.units) before)
    (hafter : dao.hooks.KeepsUnits → ∀ success, Interceptor.Steady (·.units) (after success))
    {statements : Option ConnectionId → List Event → Option Error → Prop}
    {noted : Work (Session (Recorded (Act ι ε) σ)) α} {w : Work (Session σ) α}
    (h : Tracks View.alone (SendsAll statements) noted w) :
    Tracks View.alone
      (Fills (.ofCriteria criteria operation level hook hook' statements) dao.hooks.KeepsUnits)
      (Work.enclosed (Interceptor.noting hook (.using criteria) before)
        (fun success => Interceptor.noting hook' (.used criteria success) (after success)) noted)
      (Work.enclosed before after w) := by
  refine within (p := .ofCriteria criteria operation level hook hook' statements) ?_ h
    fun success => ?_
  · exact noting hook hbefore
  · refine mono (P := Calls dao.hooks.KeepsUnits (fun t => t = .used criteria success) [hook']) ?_
      fun u u' added result hcalls => ⟨.used criteria success, rfl, hcalls⟩
    exact noting hook' fun hkeeps => hafter hkeeps success

section Units
variable {p : Protocol ι ε} {steady : Prop}

/-- A write on an entity runs the whole protocol around its work. -/
theorem writeOn (dao : Dao σ ι ε) (hlevel : p.level = some dao.db.settings.isolation)
    {noted : Work (ε × Session (Recorded (Act ι ε) σ)) α} {w : Work (ε × Session σ) α}
    (h : Tracks View.beside (Fills p steady) noted w) :
    Tracks View.beside (Runs p steady) (dao.noted.writeOn p.operation noted)
      (dao.writeOn p.operation w) := by
  refine course ?_ (fun success => ?_) h
  · rw [hlevel]
    exact onSession (openUnit Act.event dao.db _)
  · rw [hlevel]
    exact onSession (closeUnit Act.event dao.db (some success))

/-- So does a write on the session. -/
theorem write (dao : Dao σ ι ε) (hlevel : p.level = some dao.db.settings.isolation)
    {noted : Work (Session (Recorded (Act ι ε) σ)) α} {w : Work (Session σ) α}
    (h : Tracks View.alone (Fills p steady) noted w) :
    Tracks View.alone (Runs p steady) (dao.noted.write p.operation noted)
      (dao.write p.operation w) := by
  refine course ?_ (fun success => ?_) h
  · rw [hlevel]
    exact openUnit Act.event dao.db _
  · rw [hlevel]
    exact closeUnit Act.event dao.db (some success)

/-- So does a read, with no transaction. -/
theorem read (dao : Dao σ ι ε) (hlevel : p.level = none)
    {noted : Work (Session (Recorded (Act ι ε) σ)) α} {w : Work (Session σ) α}
    (h : Tracks View.alone (Fills p steady) noted w) :
    Tracks View.alone (Runs p steady) (dao.noted.read p.operation noted)
      (dao.read p.operation w) := by
  refine course ?_ (fun success => ?_) h
  · rw [hlevel]
    exact openUnit Act.event dao.db none
  · rw [hlevel]
    exact closeUnit Act.event dao.db none

end Units

end Tracks

/-! ### Requests -/

/-- A request for one of the operations with hooks, with its result. -/
inductive Request (ι ε : Type) : Type → Type where
  | insert (e : ε) : Request ι ε Unit
  | update (e : ε) : Request ι ε Unit
  | deleteByCriteria (criteria : Criteria ι) : Request ι ε UInt64
  | deleteCascadeByCriteria (criteria : Criteria ι) : Request ι ε UInt64
  | loadByCriteria (criteria : Criteria ι) : Request ι ε (Option ε)
  | findByCriteria (criteria : Criteria ι) : Request ι ε (List ε)

namespace Request

/-- What a request does. -/
def work [DecidableEq ι] (dao : Dao σ ι ε) : Request ι ε α → Work (Session σ) α
  | .insert e => Dao.onCopy e dao.insert
  | .update e => Dao.onCopy e dao.update
  | .deleteByCriteria criteria => dao.deleteByCriteria criteria
  | .deleteCascadeByCriteria criteria => Dao.onCopy criteria dao.deleteCascadeByCriteria
  | .loadByCriteria criteria => Dao.onCopy criteria dao.loadByCriteria
  | .findByCriteria criteria => dao.findByCriteria criteria

/-- What is updated has an identity, and what is deleted with its dependents
is a criteria of the type, which is usable. -/
def Admissible (dao : Dao σ ι ε) : Request ι ε α → Prop
  | .update e => ∃ id, dao.model.id? e = some id
  | .deleteCascadeByCriteria criteria =>
    criteria.root = dao.kind ∧ dao.declaration.validate = .ok ()
  | _ => True

/-- The protocol of a request. -/
def protocol (dao : Dao σ ι ε) : Request ι ε α → Protocol ι ε
  | .insert _ => .saving dao "insertion" .beforeInsert .afterInsert fun connection events failure =>
    ∃ e, Single ((dao.insertFields e).map (.insert dao.declaration.table)) dao.db.executing
      (dao.keyed e) connection events failure
  | .update old => .saving dao "update" .beforeUpdate .afterUpdate fun connection events failure =>
    ∃ id e, dao.model.id? old = some id ∧ Single (dao.updateStatement id e) dao.db.executing
      (fun written => Dao.some? "updated" written.rows) connection events failure
  | .deleteByCriteria criteria =>
    .ofCriteria criteria "deletion" (some dao.db.settings.isolation) .beforeDelete .afterDelete
      (Single (.ok (criteria.rowSelection.delete dao.model.schema)) dao.db.executing
        fun written => .ok written.rows)
  | .deleteCascadeByCriteria criteria =>
    .ofCriteria criteria "deletion" (some dao.db.settings.isolation) .beforeDelete .afterDelete
      (Cascaded dao)
  | .loadByCriteria criteria =>
    .ofCriteria criteria "load" none .beforeLoad .afterLoad
      (Single (.ok ((criteria.suspendLimits.setLimit (some 1)).find dao.model.schema))
        dao.db.fetching fun rows => rows.mapM (dao.model.mapRow dao.kind criteria.joins))
  | .findByCriteria criteria =>
    .ofCriteria criteria "find" none .beforeLoad .afterLoad
      (Single (.ok (criteria.find dao.model.schema)) dao.db.fetching fun rows =>
        rows.mapM (dao.model.mapRow dao.kind criteria.joins))

section Tracks
variable (dao : Dao σ ι ε)

open Tracks

/-- An insertion runs its protocol. -/
theorem tracks_insert (e : ε) :
    Tracks View.alone (Runs (Request.protocol dao (.insert e)) dao.hooks.KeepsUnits)
      (Dao.onCopy e dao.noted.insert) (Dao.onCopy e dao.insert) := by
  refine onCopy e ?_
  have hsaving := saving dao "insertion" .beforeInsert .afterInsert
    (fun hkeeps => hkeeps.beforeInsert) (fun hkeeps => hkeeps.afterInsert) (insertRow dao)
  exact writeOn dao rfl hsaving

/-- The identity is that of the entity at the start. -/
theorem onCopy_update {e : ε} {id : Int64} (h : dao.model.id? e = some id) :
    Dao.onCopy e dao.update = Dao.onCopy e (dao.writeOn "update"
      (dao.saving dao.hooks.beforeUpdate dao.hooks.afterUpdate (dao.updateRow id))) := by
  apply Work.ext
  intro s
  have hid : dao.idOf e = .ok id := by rw [Dao.idOf, h]
  -- The identity is looked up first, and is there.
  have hexec : dao.update.exec (e, s)
      = (dao.writeOn "update" (dao.saving dao.hooks.beforeUpdate dao.hooks.afterUpdate
          (dao.updateRow id))).exec (e, s) := by
    rw [Dao.update, Work.exec_get_bind]
    dsimp only
    rw [hid]
    rfl
  rw [Dao.onCopy, Work.exec_of, hexec]
  rfl

/-- An update runs its protocol. -/
theorem tracks_update {e : ε} {id : Int64} (h : dao.model.id? e = some id) :
    Tracks View.alone (Runs (Request.protocol dao (.update e)) dao.hooks.KeepsUnits)
      (Dao.onCopy e dao.noted.update) (Dao.onCopy e dao.update) := by
  rw [onCopy_update dao h, onCopy_update dao.noted h]
  refine onCopy e ?_
  have hrow : Tracks View.beside (SendsAll (Request.protocol dao (.update e)).statements)
      (dao.noted.updateRow id) (dao.updateRow id) := by
    refine (updateRow dao id).sends_mono ?_
    rintro connection events failure ⟨e', hsingle⟩
    exact ⟨id, e', h, hsingle⟩
  have hsaving := saving dao "update" .beforeUpdate .afterUpdate
    (fun hkeeps => hkeeps.beforeUpdate) (fun hkeeps => hkeeps.afterUpdate) hrow
  exact writeOn dao rfl hsaving

/-- A deletion runs its protocol. -/
theorem tracks_deleteByCriteria (criteria : Criteria ι) :
    Tracks View.alone
      (Runs (Request.protocol dao (.deleteByCriteria criteria)) dao.hooks.KeepsUnits)
      (dao.noted.deleteByCriteria criteria) (dao.deleteByCriteria criteria) := by
  have haround := aroundCriteria dao criteria "deletion" (some dao.db.settings.isolation)
    .beforeDelete .afterDelete (fun hkeeps => hkeeps.beforeDelete criteria)
    (fun hkeeps => hkeeps.afterDelete criteria)
    (counted dao.db (criteria.rowSelection.delete dao.model.schema))
  exact write dao rfl haround

/-- A find runs its protocol. -/
theorem tracks_findByCriteria (criteria : Criteria ι) :
    Tracks View.alone
      (Runs (Request.protocol dao (.findByCriteria criteria)) dao.hooks.KeepsUnits)
      (dao.noted.findByCriteria criteria) (dao.findByCriteria criteria) := by
  have haround := aroundCriteria dao criteria "find" none .beforeLoad .afterLoad
    (fun hkeeps => hkeeps.beforeLoad criteria) (fun hkeeps => hkeeps.afterLoad criteria)
    (mapped dao criteria.joins (criteria.find dao.model.schema))
  exact read dao rfl haround

/-- The hooks are told of the criteria as it was given. -/
theorem onCopy_loadByCriteria (criteria : Criteria ι) :
    Dao.onCopy criteria dao.loadByCriteria
      = dao.read "load" (dao.fetchHooked criteria
          ((criteria.suspendLimits.setLimit (some 1)).find dao.model.schema)) >>=
        fun found => pure found.head? := by
  rw [Dao.loadByCriteria, Dao.onCopy_onSubject_ok (criteria.exec_limitedTo _ _)]
  apply Work.ext
  intro s
  rw [Dao.onCopy, Work.exec_of, Work.exec_get_bind, Work.exec_bind]
  dsimp only
  rw [Work.exec_bind, Database.onSession, Work.exec_within]
  dsimp only
  rcases (dao.read "load" (dao.fetchHooked criteria
    ((criteria.suspendLimits.setLimit (some 1)).find dao.model.schema))).exec s
    with ⟨_ | _, s'⟩ <;> rfl

/-- A load runs the protocol of a find, and takes the first entity. -/
theorem tracks_loadByCriteria (criteria : Criteria ι) :
    Tracks View.alone
      (Runs (Request.protocol dao (.loadByCriteria criteria)) dao.hooks.KeepsUnits)
      (Dao.onCopy criteria dao.noted.loadByCriteria) (Dao.onCopy criteria dao.loadByCriteria) := by
  rw [onCopy_loadByCriteria dao, onCopy_loadByCriteria dao.noted]
  have haround := aroundCriteria dao criteria "load" none .beforeLoad .afterLoad
    (fun hkeeps => hkeeps.beforeLoad criteria) (fun hkeeps => hkeeps.afterLoad criteria)
    (mapped dao criteria.joins ((criteria.suspendLimits.setLimit (some 1)).find dao.model.schema))
  -- To take the first one adds nothing to the events.
  have hhead (found : List ε) : Tracks (View.alone (σ := σ) (κ := Act ι ε))
      (fun _ _ added result => added = [] ∧ result = .ok found.head?)
      (pure found.head?) (pure found.head?) := .pure fun _ => ⟨rfl, rfl⟩
  refine (read dao rfl haround).bind hhead (fun u u' added e hruns => hruns) ?_
  rintro u u₁ u₂ added _ found _ hruns ⟨rfl, rfl⟩
  rw [List.append_nil]
  exact hruns

/-- The statement for the roots is made of the criteria without its limits. -/
theorem onCopy_deleteCascadeByCriteria [DecidableEq ι] {criteria : Criteria ι} {select : Statement}
    (h : dao.selectIds criteria.suspendLimits = .ok select) :
    Dao.onCopy criteria dao.deleteCascadeByCriteria
      = dao.deleting criteria (dao.deleteCascadeRows select) := by
  have hselect : dao.selectIds (criteria.suspendLimits.setLimit none) = .ok select := h
  rw [Dao.deleteCascadeByCriteria, Dao.onCopy_onSubject_ok (criteria.exec_limitedTo _ _), hselect]
  rfl

/-- A cascading deletion runs its protocol. -/
theorem tracks_deleteCascadeByCriteria [DecidableEq ι] {criteria : Criteria ι}
    (hroot : criteria.root = dao.kind) (hvalid : dao.declaration.validate = .ok ()) :
    Tracks View.alone
      (Runs (Request.protocol dao (.deleteCascadeByCriteria criteria)) dao.hooks.KeepsUnits)
      (Dao.onCopy criteria dao.noted.deleteCascadeByCriteria)
      (Dao.onCopy criteria dao.deleteCascadeByCriteria) := by
  -- The identity of a type that is usable can be selected.
  obtain ⟨identity, hidentity, -⟩ := Result.bind_eq_ok.mp hvalid
  have hselect : dao.selectIds criteria.suspendLimits
      = .ok (criteria.suspendLimits.project dao.model.schema [⟨.main, identity.column⟩]) := by
    have hdeclaration : criteria.suspendLimits.declaration dao.model.schema = dao.declaration := by
      rw [Dao.declaration, ← hroot]
      rfl
    rw [Dao.selectIds, hdeclaration, hidentity]
    rfl
  rw [onCopy_deleteCascadeByCriteria dao hselect, onCopy_deleteCascadeByCriteria dao.noted hselect]
  have haround := aroundCriteria dao criteria "deletion" (some dao.db.settings.isolation)
    .beforeDelete .afterDelete (fun hkeeps => hkeeps.beforeDelete criteria)
    (fun hkeeps => hkeeps.afterDelete criteria)
    (cascaded_deleteCascadeRows dao
      (criteria.suspendLimits.project dao.model.schema [⟨.main, identity.column⟩]))
  exact write dao rfl haround

end Tracks

/-- What a request does is a course of its protocol. -/
theorem tracks [DecidableEq ι] (dao : Dao σ ι ε) (request : Request ι ε α)
    (hrequest : request.Admissible dao) :
    Tracks View.alone (Runs (request.protocol dao) dao.hooks.KeepsUnits)
      (request.work dao.noted) (request.work dao) := by
  cases request with
  | insert e => exact tracks_insert dao e
  | update e =>
      obtain ⟨id, hid⟩ := hrequest
      exact tracks_update dao hid
  | deleteByCriteria criteria => exact tracks_deleteByCriteria dao criteria
  | deleteCascadeByCriteria criteria =>
      exact tracks_deleteCascadeByCriteria dao hrequest.1 hrequest.2
  | loadByCriteria criteria => exact tracks_loadByCriteria dao criteria
  | findByCriteria criteria => exact tracks_findByCriteria dao criteria

/-- Requests that succeed have sent no statement that failed. -/
theorem telling (dao : Dao σ ι ε) (request : Request ι ε α) :
    (request.protocol dao).Telling := by
  have hexecuting (st : Statement) (c : ConnectionId) (result : Result Written) :
      (dao.db.executing st c result).failure? = result.failure? := by
    cases result <;> rfl
  have hfetching (st : Statement) (c : ConnectionId) (result : Result (List Row)) :
      (dao.db.fetching st c result).failure? = result.failure? := by
    cases result <;> rfl
  intro connection events h
  -- The statements of the work, by the kind of the request.
  cases request with
  | insert e =>
      obtain ⟨e, h⟩ := h
      exact h.unfailing hexecuting rfl
  | update e =>
      obtain ⟨id, e, -, h⟩ := h
      exact h.unfailing hexecuting rfl
  | deleteByCriteria criteria => exact Single.unfailing hexecuting h rfl
  | deleteCascadeByCriteria criteria => exact Cascaded.unfailing h rfl
  | loadByCriteria criteria => exact Single.unfailing hfetching h rfl
  | findByCriteria criteria => exact Single.unfailing hfetching h rfl

/-- A request that is made where no unit is open takes a course of its
protocol, and its outcome is the first thing that goes wrong in it: it
succeeds if nothing does, and then no act of it failed. What is noted down
changes nothing. -/
theorem run_protocol [DecidableEq ι] (dao : Dao σ ι ε) (request : Request ι ε α)
    (hrequest : request.Admissible dao) (world : σ) :
    let noted := (request.work dao.noted).exec (.start ⟨[], world⟩)
    (request.work dao).exec (.start world) = (noted.1, noted.2.erased) ∧
      (∃ failures,
        Course (request.protocol dao) dao.hooks.KeepsUnits noted.2.world.log failures ∧
          noted.1.failure? = failures.head?) ∧
      (noted.1.isOk → ∀ act ∈ noted.2.world.log, act.failure? = none) := by
  intro noted
  obtain ⟨acts, hsame, hlog, hruns⟩ := request.tracks dao hrequest (.start ⟨[], world⟩)
  obtain ⟨failures, hcourse, hfirst⟩ := hruns rfl
  have hacts : noted.2.world.log = acts := hlog
  rw [← hacts] at hcourse
  refine ⟨hsame, ⟨failures, hcourse, hfirst⟩, fun hok => ?_⟩
  -- A result that is there leaves nothing that goes wrong.
  have hnone : failures = [] := by
    rw [← List.head?_eq_none_iff, ← hfirst, ← Option.isNone_iff_eq_none]
    exact (Result.isNone_failure? _).trans hok
  exact hcourse.unfailing (request.telling dao) hnone

/-! ### An update that fails late -/

/-- Access to people, where a hook fails when one was updated. -/
def lateDao : Dao Script Unit (Option Int64) where
  db := Program.scripted
  model := Program.peopleModel
  kind := ()
  hooks := { afterUpdate := fun _ _ => Work.fail (.database "late") }

/-- Nothing can be undone, and no connection taken back. -/
def brokenScript : Script :=
  { rollback := [.error .missingPrimaryKey], release := [.error .missingPrimaryKey] }

/-- The hook, the rollback and the return fail, and the hook is what counts.
The hook after it is not called: of the nine acts there are eight. -/
theorem run_protocol_late :
    ∃ acts failures,
      Course ((Request.update (some 1)).protocol lateDao) lateDao.hooks.KeepsUnits acts failures ∧
        acts.length = 8 ∧ failures.head? = some (.execution "update" "late") := by
  obtain ⟨-, ⟨failures, hcourse, hfirst⟩, -⟩ :=
    run_protocol lateDao (.update (some 1)) ⟨1, rfl⟩ brokenScript
  have hresult : (((Request.update (some 1)).work lateDao.noted).exec
      (.start ⟨[], brokenScript⟩)).1.failure? = some (.execution "update" "late") := by
    decide +kernel
  have hacts : (((Request.update (some 1)).work lateDao.noted).exec
      (.start ⟨[], brokenScript⟩)).2.world.log.length = 8 := by
    decide +kernel
  exact ⟨_, failures, hcourse, hacts, hfirst.symm.trans hresult⟩

end Request

end DataAccess
