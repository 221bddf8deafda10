import DataAccess.Proofs.Dao.BulkWrite

/-!
# `DataAccess.Proofs.Dao.Assignments`: what an update assigns

An `Update` is an operation that updates rows: it writes an entity, or it
gives fields of all entities of a criteria new values. `Update.assigned`
says which fields it is about: those of the type but its identity, or those
that were named.

It sends one statement or fails before it has sent any. The statement has
one assignment for each of these fields, and the values of the assignments
are its first parameters (`Dialect.Assigns`). Only a save of a new entity
sends something else, which is an insert.

An update of named fields is refused if there are none. That of an entity is
not: for a type that has no field but its identity, and for no other, it
sends an update without any assignment (`Update.run_unassigned`).

`Update.run_assigns` is the principal theorem. It holds for every source,
all hooks, and whatever units are open; what the hooks themselves send is
not an act of the operation.
-/

set_option autoImplicit false

namespace DataAccess

variable {σ ι ε S T α β δ : Type}

/-! ### Statements -/

namespace Dialect

variable (d : Dialect)

/-- An update up to its assignments. -/
def updateHead (rows : Selection) : String :=
  match d with
  | .mysql => "UPDATE " ++ d.rootTable rows.table ++ d.joinClauses rows.joins
  | .sqlite => "UPDATE " ++ d.quote rows.table

/-- An update from its assignments on. -/
def updateTail (rows : Selection) : String :=
  match d with
  | .mysql => d.rowClauses rows
  | .sqlite => d.rowRestriction rows

/-- The statement updates some rows. It has one assignment for each of the
`fields`, in their order, and the values of these are its first parameters;
those of its conditions follow. -/
def Assigns (fields : List Field) (sql : Sql) : Prop :=
  ∃ (rows : Selection) (bound : List BoundField), bound.map (·.field) = fields ∧
    sql.text = d.updateHead rows ++ " SET " ++ commas (bound.map d.assignment)
      ++ d.updateTail rows ∧
    sql.params = bound.map (·.value) ++ rows.params

/-- An UPDATE statement assigns the fields that it binds. -/
theorem assigns_update (rows : Selection) (bound : List BoundField) :
    d.Assigns (bound.map (·.field)) (d.sql (.update rows bound)) := by
  refine ⟨rows, bound, rfl, ?_, rfl⟩
  show d.updateText rows bound = _
  cases d <;> simp only [updateText, updateHead, updateTail, String.append_assoc]

end Dialect

/-! ### Fields -/

/-- The fields of a type that are not its identity. -/
def Declaration.assignable (d : Declaration ι) : List Field :=
  d.fields.filter fun f => !f.identity

/-- A type that is usable has a field to be assigned, unless its identity is
its only field. -/
theorem Declaration.fields_of_assignable_eq_nil {d : Declaration ι} (h : d.validate = .ok ())
    (hnone : d.assignable = []) : ∃ identity, d.fields = [identity] := by
  obtain ⟨identity, hidentity, -⟩ := Result.bind_eq_ok.mp h
  -- All of its fields are identities, and it has one of these.
  have hall : d.identities = d.fields := by
    refine List.filter_eq_self.mpr fun f hf => ?_
    simpa using List.filter_eq_nil_iff.mp hnone f hf
  rw [identityField, hall] at hidentity
  split at hidentity
  next f hone => exact ⟨f, hone⟩
  · cases hidentity
  · cases hidentity

namespace Dao

variable (dao : Dao σ ι ε)

/-- Every field of an entity is bound. -/
theorem field_bindValues {e : ε} {bound : List BoundField}
    (h : dao.model.bindValues dao.kind e = .ok bound) :
    bound.map (·.field) = dao.declaration.fields := by
  refine (Result.map_of_mapM (k := id) (fun field first hfirst => ?_) h).trans (List.map_id _)
  obtain ⟨value, -, hvalue⟩ := Result.bind_eq_ok.mp hfirst
  obtain rfl := Except.ok.inj hvalue
  rfl

/-- An update of an entity is about the fields to be assigned, whatever the
entity holds. -/
theorem field_updateFieldsOf {e : ε} {bound : List BoundField}
    (h : dao.updateFieldsOf e = .ok bound) :
    bound.map (·.field) = dao.declaration.assignable := by
  obtain ⟨all, hall, h⟩ := Result.bind_eq_ok.mp h
  obtain rfl := Except.ok.inj h
  rw [Declaration.assignable, ← dao.field_bindValues hall, List.filter_map]
  rfl

/-- The fields of the names. -/
theorem field_bindFields {fields : List (String × Value)} {bound : List BoundField}
    (h : dao.bindFields fields = .ok bound) :
    (fields.mapM fun named => dao.declaration.field named.1) = .ok (bound.map (·.field)) := by
  refine Result.mapM_of_mapM (fun named first hfirst => ?_) h
  obtain ⟨field, hfield, hbound⟩ := Result.bind_eq_ok.mp hfirst
  obtain rfl := Except.ok.inj hbound
  exact hfield

end Dao

/-! ### What is sent -/

namespace Tracks

section Rules
variable {v : View S T σ (Act ι ε)} {P : List Sql → Prop} {noted : Work S α} {w : Work T α}

/-- One statement that writes is sent, if it can be made out at all. -/
theorem sending_single {db : Database σ} {statement : ε → Result Statement}
    {check : ε → Written → Result δ}
    (h : Tracks v (SendsAll fun connection events failure =>
      ∃ e, Single (statement e) db.executing (check e) connection events failure) noted w) :
    Tracks v (Sending fun sqls => ∃ e st, statement e = .ok st ∧ sqls = [db.dialect.sql st])
      noted w := by
  refine h.mono ?_
  rintro u u' added result ⟨-, events, rfl, e, hsingle⟩
  generalize hfailure : result.failure? = failure at hsingle
  -- What is not sent fails.
  have hfailed (h : failure ≠ none) : result.isOk = false := by
    cases result with
    | ok a => exact absurd hfailure.symm h
    | error e => rfl
  generalize u.connection = connection at hsingle
  cases hsingle with
  | refused => exact .inr ⟨rfl, hfailed nofun⟩
  | unsent => exact .inr ⟨rfl, hfailed nofun⟩
  | sent c written made => exact .inl ⟨e, _, made, rfl⟩

end Rules

section Units
variable (dao : Dao σ ι ε) {P : List Sql → Prop}
  {noted : Work (ε × Session (Recorded (Act ι ε) σ)) α} {w : Work (ε × Session σ) α}

/-- A write sends what its work does, as opening and closing send nothing. -/
theorem sending_writeOn (operation : String) (h : Tracks View.beside (Sending P) noted w) :
    Tracks View.beside (Sending P) (dao.noted.writeOn operation noted)
      (dao.writeOn operation w) :=
  sending_enclosed (onSession (mute_openUnit dao _))
    (fun success => onSession (mute_closeUnit dao (some success))) (sending_mapError h)

/-- The hooks of a save send nothing of their own. -/
theorem sending_saving (hook hook' : Hook) {before : Work (ε × Session σ) Unit}
    {after : ε → Bool → Work (Session σ) Unit}
    {noted : Work (ε × Session (Recorded (Act ι ε) σ)) Unit} {w : Work (ε × Session σ) Unit}
    (h : Tracks View.beside (Sending P) noted w) :
    Tracks View.beside (Sending P)
      (dao.noted.saving (Interceptor.notingSave hook before)
        (fun e success => Interceptor.noting hook' (.saved e success) (after e success)) noted)
      (dao.saving before after w) := by
  -- Nothing is said of the units, so the hooks may do with them as they like.
  have hmute {noted : Work (ε × Session (Recorded (Act ι ε) σ)) Unit}
      {w : Work (ε × Session σ) Unit} {told : Told ι ε → Prop} {hooks : List Hook}
      (h : Tracks View.beside (Calls False told hooks) noted w) :
      Tracks View.beside Mute noted w :=
    h.mono fun _ _ _ _ hcalls => hcalls.1.sent
  refine sending_enclosed ?_ (fun success => ?_) h
  · exact hmute (calls_bind (notingSave .beforeSave False.elim) fun _ =>
      notingSave hook False.elim)
  · refine subject_bind fun e s s' => ?_
    exact hmute (calls_bind (onSession (noting hook' False.elim)) fun _ =>
      onSession (noting .afterSave False.elim))

/-- The row of a new entity is inserted. -/
theorem sending_insert :
    Tracks View.beside
      (Sending fun sqls => ∃ bound,
        sqls = [dao.db.dialect.sql (.insert dao.declaration.table bound)])
      dao.noted.insert dao.insert := by
  have hrow := sending_single (insertRow dao)
  refine (sending_writeOn dao "insertion" (sending_saving dao .beforeInsert .afterInsert
    hrow)).mono ?_
  -- The hooks may change the entity before its row is made, so it is any `e`.
  rintro u u' added result (⟨e, st, hst, hsent⟩ | hfailed)
  · cases hfields : dao.insertFields e with
    | error e =>
        rw [hfields] at hst
        cases hst
    | ok bound =>
        rw [hfields] at hst
        obtain rfl := Except.ok.inj hst
        exact .inl ⟨bound, hsent⟩
  · exact .inr hfailed

/-- The row of an entity that has an identity is updated. -/
theorem sending_update :
    Tracks View.beside
      (Sending fun sqls => ∃ sql, sqls = [sql] ∧
        dao.db.dialect.Assigns dao.declaration.assignable sql)
      dao.noted.update dao.update := by
  refine subject_bind fun e s s' => ?_
  refine ofResult_bind (fun e he u => .inr ⟨rfl, rfl⟩) fun id hid => ?_
  have hrow := sending_single (updateRow dao id)
  refine (sending_writeOn dao "update" (sending_saving dao .beforeUpdate .afterUpdate
    hrow)).mono ?_
  -- The fields are bound from the entity as the hooks leave it.
  rintro u u' added result (⟨e, st, hst, hsent⟩ | hfailed)
  · obtain ⟨bound, hbound, hst⟩ := Result.bind_eq_ok.mp hst
    obtain ⟨criteria, -, hst⟩ := Result.bind_eq_ok.mp hst
    obtain rfl := Except.ok.inj hst
    rw [← dao.field_updateFieldsOf hbound]
    exact .inl ⟨_, hsent, dao.db.dialect.assigns_update _ bound⟩
  · exact .inr hfailed

/-- The rows of a criteria are updated, if there are fields to be
assigned. -/
theorem sending_named (fields : List (String × Value)) (c : Criteria ι) :
    Tracks View.alone
      (Sending fun sqls => ∃ sql assigned, sqls = [sql] ∧ assigned ≠ [] ∧
        (fields.mapM fun named => dao.declaration.field named.1) = .ok assigned ∧
        dao.db.dialect.Assigns assigned sql)
      (dao.noted.updateFields fields c) (dao.updateFields fields c) := by
  refine (sending_updateFields dao c fields).mono ?_
  rintro u u' added result (⟨rows, hrows, hsent⟩ | hfailed)
  · obtain ⟨bound, hbound, hrows⟩ := Result.bind_eq_ok.mp hrows
    split at hrows
    · cases hrows
    next hsome =>
      obtain rfl := Except.ok.inj hrows
      refine .inl ⟨_, _, hsent, ?_, dao.field_bindFields hbound,
        dao.db.dialect.assigns_update _ bound⟩
      simpa using hsome
  · exact .inr hfailed

end Units

end Tracks

/-! ### Updates -/

/-- An operation that updates rows, with its result. -/
inductive Update (ι ε : Type) : Type → Type where
  | update (e : ε) : Update ι ε Unit
  | save (e : ε) : Update ι ε Unit
  | fields (named : List (String × Value)) (criteria : Criteria ι) : Update ι ε UInt64
  | all (named : List (String × Value)) : Update ι ε UInt64
  | byId (id : Int64) (named : List (String × Value)) : Update ι ε Unit
  | byCondition (named : List (String × Value)) (template : String) (values : List Value) :
    Update ι ε UInt64

namespace Update

/-- What the operation does. -/
def work (dao : Dao σ ι ε) : Update ι ε α → Work (Session σ) α
  | update e => Dao.onCopy e dao.update
  | save e => Dao.onCopy e dao.save
  | fields named criteria => dao.updateFields named criteria
  | all named => dao.updateAll named
  | byId id named => dao.updateById id named
  | byCondition named template values => dao.updateByCondition named template values

/-- The names of the fields that the operation was given, if it was given
no entity. -/
def named? : Update ι ε α → Option (List (String × Value))
  | update _ | save _ => none
  | fields named _ | all named | byId _ named | byCondition named _ _ => some named

/-- The fields to be assigned. -/
def assigned (dao : Dao σ ι ε) (op : Update ι ε α) : Result (List Field) :=
  match op.named? with
  | none => .ok dao.declaration.assignable
  | some named => named.mapM fun field => dao.declaration.field field.1

/-- What the operation sends. -/
inductive Sends (dao : Dao σ ι ε) : {α : Type} → Update ι ε α → List Sql → Prop where
  /-- A new entity is inserted. -/
  | inserted {e : ε} {bound : List BoundField} (new : dao.model.isNew e = true) :
      Sends dao (.save e) [dao.db.dialect.sql (.insert dao.declaration.table bound)]
  /-- Rows are updated; an empty list of fields is that of an entity of a type
  that has none but its identity. -/
  | updated {α : Type} {op : Update ι ε α} {fields : List Field} {sql : Sql}
      (assigned : op.assigned dao = .ok fields) (assigns : dao.db.dialect.Assigns fields sql)
      (empty : fields = [] → op.named? = none ∧ ∃ identity, dao.declaration.fields = [identity]) :
      Sends dao op [sql]

section Sends
variable {dao : Dao σ ι ε} {op : Update ι ε α}

/-- An update of a valid type sends what it should, if the statement
assigns the assignable fields. -/
theorem sends_entity (hvalid : dao.declaration.validate = .ok ()) (hentity : op.named? = none)
    {sql : Sql} (h : dao.db.dialect.Assigns dao.declaration.assignable sql) :
    op.Sends dao [sql] := by
  refine .updated ?_ h fun hnone => ⟨hentity, Declaration.fields_of_assignable_eq_nil hvalid hnone⟩
  rw [assigned, hentity]

/-- A write of named fields sends what it should, if it assigns these
fields. -/
theorem sends_named {named : List (String × Value)} (hnamed : op.named? = some named)
    {noted : Work (Session (Recorded (Act ι ε) σ)) β} {w : Work (Session σ) β}
    (h : Tracks View.alone
      (Sending fun sqls => ∃ sql assigned, sqls = [sql] ∧ assigned ≠ [] ∧
        (named.mapM fun field => dao.declaration.field field.1) = .ok assigned ∧
        dao.db.dialect.Assigns assigned sql) noted w) :
    Tracks View.alone (Sending (op.Sends dao)) noted w := by
  refine h.mono fun u u' added result hsent => hsent.imp_left ?_
  rintro ⟨sql, fields, hsql, hsome, hfields, hassigns⟩
  rw [hsql]
  refine .updated ?_ hassigns fun hnone => absurd hnone hsome
  rw [assigned, hnamed]
  exact hfields

end Sends

variable (dao : Dao σ ι ε)

/-- A save is an insert or an update, by what the entity is at the start. -/
theorem onCopy_save (e : ε) :
    Dao.onCopy e dao.save
      = Dao.onCopy e (if dao.model.isNew e then dao.insert else dao.update) := rfl

/-- Every one of the six operations sends what it should, or nothing when
it fails. -/
theorem sending_work (hvalid : dao.declaration.validate = .ok ()) (op : Update ι ε α) :
    Tracks View.alone (Sending (op.Sends dao)) (op.work dao.noted) (op.work dao) := by
  -- An update of an entity, as `update` and `save` make it.
  have hentity {op : Update ι ε Unit} (hop : op.named? = none) (e : ε) :
      Tracks View.alone (Sending (op.Sends dao)) (Dao.onCopy e dao.noted.update)
        (Dao.onCopy e dao.update) := by
    refine (Tracks.onCopy e (Tracks.sending_update dao)).mono fun u u' added result hsent =>
      hsent.imp_left ?_
    rintro ⟨sql, hsql, hassigns⟩
    rw [hsql]
    exact sends_entity hvalid hop hassigns
  cases op with
  | update e => exact hentity rfl e
  | save e =>
      show Tracks View.alone _ (Dao.onCopy e dao.noted.save) (Dao.onCopy e dao.save)
      rw [onCopy_save, onCopy_save]
      cases hnew : dao.model.isNew e with
      | false =>
          rw [show dao.noted.model.isNew e = false from hnew]
          exact hentity rfl e
      | true =>
          rw [show dao.noted.model.isNew e = true from hnew]
          refine (Tracks.onCopy e (Tracks.sending_insert dao)).mono fun u u' added result hsent =>
            hsent.imp_left ?_
          rintro ⟨bound, hsql⟩
          rw [hsql]
          exact .inserted hnew
  | fields named c => exact sends_named rfl (Tracks.sending_named dao named c)
  | all named => exact sends_named rfl (Tracks.sending_named dao named dao.criteria)
  | byId id named =>
      refine Tracks.ofResult_bind (fun e he u => .inr ⟨rfl, rfl⟩) fun c hc => ?_
      exact Tracks.sending_bind_mute
        (sends_named rfl (Tracks.sending_named dao named c)) fun rows =>
          .ofResult fun _ => rfl
  | byCondition named template values =>
      refine Tracks.ofResult_bind (fun e he u => .inr ⟨rfl, rfl⟩) fun c hc => ?_
      exact sends_named rfl (Tracks.sending_named dao named c)

/-- An update of no fields by their names sends nothing. -/
theorem not_sends_of_named_nil {op : Update ι ε α} {sqls : List Sql} (hnone : op.named? = some []) :
    ¬ op.Sends dao sqls := by
  intro hsends
  cases hsends with
  | inserted => cases hnone
  | updated assigned _ empty =>
      rw [Update.assigned, hnone] at assigned
      have hempty := (empty (Except.ok.inj assigned).symm).1
      rw [hnone] at hempty
      cases hempty

/-- An update sends one statement or fails without any, and noting down what
it sends does not change what it does. There is an assignment for each
field that it is about, with its value before those of the conditions; there
is at least one, unless an entity is written whose type has no field but its
identity. An update of no fields by their names fails without a statement. -/
theorem run_assigns (hvalid : dao.declaration.validate = .ok ()) (op : Update ι ε α)
    (s : Session σ) :
    let noted := (op.work dao.noted).exec (Dao.unnoted s)
    (op.work dao).exec s = (noted.1, noted.2.erased) ∧
      (op.Sends dao (Act.sent noted.2.world.log) ∨
        Act.sent noted.2.world.log = [] ∧ noted.1.isOk = false) ∧
      (op.named? = some [] → Act.sent noted.2.world.log = [] ∧ noted.1.isOk = false) := by
  intro noted
  -- The record is empty at first, so what the work adds is all of it.
  obtain ⟨added, hsame, hlog, hsent⟩ := op.sending_work dao hvalid (Dao.unnoted s)
  obtain rfl : noted.2.world.log = added := hlog
  exact ⟨hsame, hsent, fun hnone => hsent.resolve_left (op.not_sends_of_named_nil dao hnone)⟩

/-! ### People and tags -/

/-- Access to people. -/
def peopleDao : Dao Script Unit (Option Int64) where
  db := Program.scripted
  model := Program.peopleModel
  kind := ()

/-- A person gets a new boss and a new mentor. -/
theorem run_assigns_people :
    let run := ((Update.update (some 1)).work peopleDao.noted).exec (Dao.unnoted (.start {}))
    ∃ sql, Act.sent run.2.world.log = [sql] ∧ Dialect.Assigns .sqlite
      [⟨"bossId", "boss_id", .bigInt, false⟩, ⟨"mentorId", "mentor_id", .bigInt, false⟩] sql := by
  intro run
  obtain ⟨-, hsent, -⟩ := run_assigns peopleDao rfl (.update (some 1)) (.start {})
  have hok : run.1.isOk = true := by decide +kernel
  -- The run succeeds, so the statement was sent.
  rcases hsent with hsends | ⟨-, hfailed⟩
  · generalize Act.sent _ = sqls at hsends ⊢
    cases hsends with
    | updated assigned assigns =>
        obtain rfl := Except.ok.inj assigned
        exact ⟨_, rfl, assigns⟩
  · rw [hok] at hfailed
    cases hfailed

/-- Tags, of which there is nothing but an identity. -/
def tags : Schema Unit := fun _ =>
  { typeName := "Tag", table := "tag", fields := [⟨"id", "id", .bigInt, true⟩]
    relations := [], dependents := [] }

/-- Access to them. -/
def tagDao (d : Dialect) : Dao Script Unit (Option Int64) where
  db := .of (Script.source d)
  model := { Program.peopleModel with schema := tags }
  kind := ()

/-- The type is usable, and an update of a tag is sent although nothing is
assigned. -/
theorem run_unassigned :
    let sent (d : Dialect) := Act.sent (((Update.update (some 1)).work (tagDao d).noted).exec
      (Dao.unnoted (.start {}))).2.world.log
    (∀ d, (tagDao d).declaration.validate = .ok ()) ∧
      (sent .sqlite).map (·.text) = ["UPDATE \"tag\" SET  WHERE rowid IN"
        ++ " (SELECT t_main.rowid FROM \"tag\" t_main WHERE t_main.id = ?)"] ∧
      (sent .mysql).map (·.text) = ["UPDATE \x60tag\x60 t_main SET  WHERE t_main.id = ?"] := by
  refine ⟨fun d => rfl, ?_, ?_⟩ <;> decide +kernel

end Update

end DataAccess
