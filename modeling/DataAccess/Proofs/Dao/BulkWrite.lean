import DataAccess.Proofs.Dao.Loan
import DataAccess.Proofs.Sql.RowWrite

/-!
# `DataAccess.Proofs.Dao.BulkWrite`: writes of all entities of a criteria

A bulk write gives fields of all entities of a criteria new values, or
deletes the entities. It sends one statement, or fails before it has sent
any. The statement is a `RowWrite` for the criteria, and says of its rows
what `RowWrite.Restricted` says of them: it is restricted by the conditions
and by nothing else.

`BulkWrite.run_restricted` is the principal theorem. It holds for every
source, all hooks, and whatever units are open. A write of no fields is
refused, and so is one of a field that the type does not have
(`BulkWrite.rows`).
-/

set_option autoImplicit false

namespace DataAccess

variable {σ ι ε : Type}

/-- A write of all entities of a criteria. -/
inductive BulkWrite where
  /-- Fields, by their names, get new values. -/
  | update (fields : List (String × Value))
  | delete

namespace BulkWrite

/-- What the write does. -/
def work (dao : Dao σ ι ε) (c : Criteria ι) : BulkWrite → Work (Session σ) UInt64
  | update fields => dao.updateFields fields c
  | delete => dao.deleteByCriteria c

/-- The values that it writes. -/
def values : BulkWrite → List Value
  | update fields => fields.map (·.2)
  | delete => []

/-- What becomes of the rows, unless the write is refused. -/
def rows (dao : Dao σ ι ε) : BulkWrite → Result RowWrite
  | update fields => do
    let bound ← dao.bindFields fields
    if bound.isEmpty then .error (.invalidInput .nothingToUpdate)
    else return .update bound
  | delete => .ok .delete

end BulkWrite

namespace Dao

variable (dao : Dao σ ι ε)

/-- Fields keep the values that they are bound to, in their order. -/
theorem values_bindFields {fields : List (String × Value)} {bound : List BoundField}
    (h : dao.bindFields fields = .ok bound) : bound.map (·.value) = fields.map (·.2) := by
  refine Result.map_of_mapM (fun named first hfirst => ?_) h
  obtain ⟨field, -, hbound⟩ := Result.bind_eq_ok.mp hfirst
  obtain rfl := Except.ok.inj hbound
  rfl

end Dao

namespace Tracks

variable (dao : Dao σ ι ε) (c : Criteria ι)

/-- A statement that writes, and the number of rows. -/
theorem sending_execute (st : Statement) :
    Tracks View.alone (Sending (ι := ι) (ε := ε) (· = [dao.db.dialect.sql st]))
      (do
        let written ← dao.noted.db.execute st
        return written.rows)
      (do
        let written ← dao.db.execute st
        return written.rows) := by
  have hexecute : Tracks View.alone (Sending (ι := ι) (ε := ε) (· = [dao.db.dialect.sql st]))
      (dao.noted.db.execute st) (dao.db.execute st) := by
    refine (executing dao.db st).mono ?_
    rintro _ u added result ⟨rfl, events, rfl, hsends⟩
    generalize u.connection = connection at hsends
    -- Without a connection the statement is not sent, and the write fails.
    cases hsends with
    | unsent => exact .inr ⟨rfl, rfl⟩
    | sent c => exact .inl rfl
  exact sending_bind_mute hexecute fun written => .pure fun _ => rfl

/-- A write of fields sends the UPDATE statement for the rows, if it has
fields to bind. -/
theorem sending_updateFields (fields : List (String × Value)) :
    Tracks View.alone
      (Sending fun sqls => ∃ rows, (BulkWrite.update fields).rows dao = .ok rows ∧
        sqls = [dao.db.dialect.sql (rows.statement dao.model.schema c)])
      (dao.noted.updateFields fields c) (dao.updateFields fields c) := by
  refine ofResult_bind (fun e he u => .inr ⟨rfl, rfl⟩) fun bound hbound => ?_
  by_cases hempty : bound.isEmpty = true
  · -- Without fields there is nothing to do, and nothing is sent.
    rw [if_pos hempty, if_pos hempty]
    exact .fail fun u => .inr ⟨rfl, rfl⟩
  · rw [if_neg hempty, if_neg hempty]
    -- The fields are bound once, before the unit is opened.
    have hrows : (BulkWrite.update fields).rows dao = .ok (.update bound) := by
      rw [BulkWrite.rows, show dao.bindFields fields = .ok bound from hbound]
      exact if_neg hempty
    refine (sending_write dao "update" (sending_execute dao
      ((RowWrite.update bound).statement dao.model.schema c))).mono ?_
    intro u u' added result hsent
    exact hsent.imp_left fun hone => ⟨_, hrows, hone⟩

/-- A deletion sends the DELETE statement for the rows, between its hooks. -/
theorem sending_deleteByCriteria :
    Tracks View.alone
      (Sending (· = [dao.db.dialect.sql (RowWrite.delete.statement dao.model.schema c)]))
      (dao.noted.deleteByCriteria c) (dao.deleteByCriteria c) :=
  sending_write dao "deletion" (sending_enclosed
    (mute_noting .beforeDelete (.using c) (dao.hooks.beforeDelete c))
    (fun success => mute_noting .afterDelete (.used c success) (dao.hooks.afterDelete c success))
    (sending_execute dao _))

end Tracks

namespace BulkWrite

variable (dao : Dao σ ι ε) (write : BulkWrite) (c : Criteria ι)

/-- The statement has the values that the write was given. -/
theorem values_rows {rows : RowWrite} (h : write.rows dao = .ok rows) :
    rows.values = write.values := by
  cases write with
  | delete =>
      obtain rfl := Except.ok.inj h
      rfl
  | update fields =>
      obtain ⟨bound, hbound, hrows⟩ := Result.bind_eq_ok.mp h
      split at hrows
      · cases hrows
      · obtain rfl := Except.ok.inj hrows
        exact dao.values_bindFields hbound

/-- Each bulk write sends the statement that it is made of, or nothing when
it fails. -/
theorem sending_work :
    Tracks View.alone
      (Sending fun sqls => ∃ rows, write.rows dao = .ok rows ∧
        sqls = [dao.db.dialect.sql (rows.statement dao.model.schema c)])
      (write.work dao.noted c) (write.work dao c) := by
  cases write with
  | update fields => exact Tracks.sending_updateFields dao c fields
  | delete =>
      refine (Tracks.sending_deleteByCriteria dao c).mono ?_
      intro u u' added result hsent
      exact hsent.imp_left fun hone => ⟨_, rfl, hone⟩

/-- A bulk write sends one statement or fails without any, and noting down
what it sends does not change what it does. The statement is for the rows
of the criteria, and restricted by exactly its conditions. -/
theorem run_restricted (s : Session σ) :
    let noted := (write.work dao.noted c).exec (Dao.unnoted s)
    (write.work dao c).exec s = (noted.1, noted.2.erased) ∧
      ((∃ rows, write.rows dao = .ok rows ∧ rows.values = write.values ∧
          Act.sent noted.2.world.log
            = [dao.db.dialect.sql (rows.statement dao.model.schema c)]) ∨
        Act.sent noted.2.world.log = [] ∧ noted.1.isOk = false) ∧
      ∀ rows : RowWrite, rows.Restricted dao.db.dialect dao.model.schema c := by
  intro noted
  -- The record is empty at first, so what the work adds is all of it.
  obtain ⟨added, hsame, hlog, hsent⟩ := write.sending_work dao c (Dao.unnoted s)
  obtain rfl : noted.2.world.log = added := hlog
  refine ⟨hsame, hsent.imp_left ?_, fun rows => rows.restricted _ _ _⟩
  rintro ⟨rows, hrows, hone⟩
  exact ⟨rows, hrows, write.values_rows dao hrows, hone⟩

/-- Where nothing fails, an update of ordered people is sent, without their
order. -/
example :
    let dao : Dao Script Unit (Option Int64) :=
      { db := Program.scripted, model := Program.peopleModel, kind := () }
    let c := (Criteria.new ()).run Criteria.people
      [.filter .and "bossId" .equal (.int64 1), .order "id" .descending]
    let run := ((update [("mentorId", .int64 2)]).work dao.noted c).exec (Dao.unnoted (.start {}))
    run.1.isOk = true ∧ (Act.sent run.2.world.log).map (·.text)
      = ["UPDATE \"people\" SET \"mentor_id\" = ? WHERE rowid IN"
        ++ " (SELECT t_main.rowid FROM \"people\" t_main WHERE t_main.boss_id = ?)"] := by
  decide +kernel

end BulkWrite

end DataAccess
