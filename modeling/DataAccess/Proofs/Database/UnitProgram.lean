import DataAccess.Dao.Basic
import DataAccess.Proofs.Database.UnitTree

/-!
# `DataAccess.Proofs.Database.UnitProgram`: work that is a tree of units

`IsTree db w` says that `w`, work on a subject and a session, is the work
of a `UnitTree`; `IsProgram db w` says so of work on a session alone.
There is one lemma for every way of putting work together, so that an
operation is seen to be a tree by following its text.

What such work asks of the source when it is the work of an outermost unit
is said by `IsProgram.balanced`.
-/

set_option autoImplicit false

namespace DataAccess

variable {σ τ ρ α β : Type} {db : Database σ}

/-- The work is that of a tree of units. -/
def IsTree (db : Database σ) (w : Work (τ × Session σ) α) : Prop :=
  ∃ t : UnitTree τ α, t.run db = w

/-- The work is that of a tree of units, whatever subject there is. -/
def IsProgram (db : Database σ) (w : Work (Session σ) α) : Prop :=
  ∀ τ, IsTree db (Database.onSession w : Work (τ × Session σ) α)

namespace IsTree

/-- Work on the subject alone is a leaf. -/
theorem onSubject (w : Work τ α) : IsTree db (Database.onSubject w) :=
  ⟨.subject w, rfl⟩

/-- A program does the same beside any subject. -/
theorem onSession {w : Work (Session σ) α} (h : IsProgram db w) :
    IsTree db (Database.onSession w : Work (τ × Session σ) α) :=
  h τ

/-- An outcome that is known beforehand is work on the subject. -/
theorem ofResult (r : Result α) : IsTree db (Work.ofResult r : Work (τ × Session σ) α) :=
  ⟨.subject (Work.ofResult r), rfl⟩

/-- To return something is work on the subject. -/
theorem pure (a : α) : IsTree db (Pure.pure a : Work (τ × Session σ) α) :=
  ⟨.subject (Pure.pure a), rfl⟩

/-- To fail is work on the subject. -/
theorem fail (e : Error) : IsTree db (Work.fail e : Work (τ × Session σ) α) :=
  ⟨.subject (Work.fail e), rfl⟩

/-- What follows work depends on how it ended. -/
theorem continued {w : Work (τ × Session σ) α} {next : Result α → Work (τ × Session σ) β}
    (hw : IsTree db w) (hnext : ∀ result, IsTree db (next result)) :
    IsTree db (UnitTree.continued w next) := by
  obtain ⟨t, rfl⟩ := hw
  choose u hu using hnext
  refine ⟨.bind t u, ?_⟩
  rw [UnitTree.run]
  exact congrArg (UnitTree.continued _) (funext hu)

/-- A tree and the trees that follow it, of which a failure has none. -/
theorem bind {w : Work (τ × Session σ) α} {f : α → Work (τ × Session σ) β}
    (hw : IsTree db w) (hf : ∀ a, IsTree db (f a)) : IsTree db (w >>= f) := by
  -- A tree goes on from every result, so that a failure has to go on, too.
  have heq : w >>= f = UnitTree.continued w fun result => Work.ofResult result >>= f := by
    apply Work.ext
    intro s
    rw [UnitTree.exec_continued, Work.exec_bind]
    rcases w.exec s with ⟨_ | a, s'⟩ <;> rfl
  rw [heq]
  -- An error is passed on, and what follows does not take place.
  refine hw.continued fun result => ?_
  cases result with
  | ok a => exact hf a
  | error e => exact fail e

/-- An error can be caught in a tree. -/
theorem attempt {w : Work (τ × Session σ) α} (hw : IsTree db w) : IsTree db w.attempt := by
  have heq : w.attempt = UnitTree.continued w fun result => Pure.pure result := rfl
  rw [heq]
  exact hw.continued pure

/-- An error can be replaced in a tree. -/
theorem mapError {w : Work (τ × Session σ) α} (f : Error → Error) (hw : IsTree db w) :
    IsTree db (w.mapError f) := by
  have heq : w.mapError f = UnitTree.continued w fun result =>
      Work.ofResult (result.mapError f) := by
    apply Work.ext
    intro s
    rw [UnitTree.exec_continued, Work.exec_mapError]
    rfl
  rw [heq]
  exact hw.continued fun result => ofResult _

/-- What concludes work is told how it ended, and its own error counts
only if there was none before. -/
theorem concluding {w : Work (τ × Session σ) α} {conclusion : Bool → Work (τ × Session σ) Unit}
    (hw : IsTree db w) (hconclusion : ∀ success, IsTree db (conclusion success)) :
    IsTree db (w.concluding conclusion) := by
  have heq : w.concluding conclusion = UnitTree.continued w fun result =>
      UnitTree.continued (conclusion result.isOk) fun outer =>
        Work.ofResult (Work.concluded result outer) := rfl
  rw [heq]
  exact hw.continued fun result => (hconclusion _).continued fun outer => ofResult _

/-- What comes before, the work and what comes after, all trees. -/
theorem enclosed {opening : Work (τ × Session σ) Unit}
    {closing : Bool → Work (τ × Session σ) Unit} {w : Work (τ × Session σ) α}
    (hopening : IsTree db opening) (hclosing : ∀ success, IsTree db (closing success))
    (hw : IsTree db w) : IsTree db (Work.enclosed opening closing w) :=
  hopening.bind fun _ => hw.concluding hclosing

/-- The subject is read, and the session is not. -/
theorem subject_bind {f : τ × Session σ → Work (τ × Session σ) α}
    (hf : ∀ subject s s', f (subject, s) = f (subject, s')) (h : ∀ p, IsTree db (f p)) :
    IsTree db (get >>= f) := by
  by_cases hsession : Nonempty (Session σ)
  · -- Any session will do in place of the one that is there.
    obtain ⟨session⟩ := hsession
    have heq : get >>= f = (Database.onSubject get >>= fun subject => f (subject, session) :
        Work (τ × Session σ) α) := by
      apply Work.ext
      rintro ⟨subject, s⟩
      rw [Work.exec_get_bind, hf subject s session]
      rfl
    rw [heq]
    exact (onSubject get).bind fun subject => h (subject, session)
  · -- Without sessions there is nothing to be done on them.
    have heq : get >>= f = Work.fail .missingPrimaryKey :=
      Work.ext fun s => (hsession ⟨s.2⟩).elim
    rw [heq]
    exact fail _

/-- A unit around a tree. -/
theorem inUnit {w : Work (τ × Session σ) α} (level : Option Isolation) (hw : IsTree db w) :
    IsTree db (UnitTree.inUnit db level w) := by
  obtain ⟨t, rfl⟩ := hw
  exact ⟨.unit level t, rfl⟩

/-- A transaction is a unit of the isolation that is set. -/
theorem transactionOn {w : Work (τ × Session σ) α} (hw : IsTree db w) :
    IsTree db (db.transactionOn w) :=
  hw.inUnit (some db.settings.isolation)

end IsTree

namespace IsProgram

/-- An outcome that is known beforehand is a program. -/
theorem ofResult (r : Result α) : IsProgram db (Work.ofResult r) :=
  fun _ => IsTree.ofResult r

/-- To return something is a program. -/
theorem pure (a : α) : IsProgram db (Pure.pure a) :=
  fun _ => IsTree.pure a

/-- To fail is a program. -/
theorem fail (e : Error) : IsProgram db (Work.fail e : Work (Session σ) α) :=
  fun _ => IsTree.fail e

/-- A program and the programs that follow it. -/
theorem bind {w : Work (Session σ) α} {f : α → Work (Session σ) β} (hw : IsProgram db w)
    (hf : ∀ a, IsProgram db (f a)) : IsProgram db (w >>= f) := by
  intro τ
  have heq : (Database.onSession (w >>= f) : Work (τ × Session σ) β)
      = Database.onSession w >>= fun a => Database.onSession (f a) := by
    apply Work.ext
    intro s
    rw [UnitTree.exec_onSession, Work.exec_bind, Work.exec_bind, UnitTree.exec_onSession]
    rcases w.exec s.2 with ⟨_ | a, s'⟩ <;> rfl
  rw [heq]
  exact (hw τ).bind fun a => hf a τ

/-- An error can be caught in a program. -/
theorem attempt {w : Work (Session σ) α} (hw : IsProgram db w) : IsProgram db w.attempt :=
  fun τ => (hw τ).attempt

/-- An error can be replaced in a program. -/
theorem mapError {w : Work (Session σ) α} (f : Error → Error) (hw : IsProgram db w) :
    IsProgram db (w.mapError f) := by
  intro τ
  have heq : (Database.onSession (w.mapError f) : Work (τ × Session σ) α)
      = (Database.onSession w).mapError f := by
    apply Work.ext
    intro s
    rw [UnitTree.exec_onSession, Work.exec_mapError, Work.exec_mapError,
      UnitTree.exec_onSession]
  rw [heq]
  exact (hw τ).mapError f

/-- A program and what follows it in any case. -/
theorem concluding {w : Work (Session σ) α} {conclusion : Bool → Work (Session σ) Unit}
    (hw : IsProgram db w) (hconclusion : ∀ success, IsProgram db (conclusion success)) :
    IsProgram db (w.concluding conclusion) :=
  fun τ => (hw τ).concluding fun success => hconclusion success τ

/-- What comes before, the work and what comes after, all programs. -/
theorem enclosed {opening : Work (Session σ) Unit} {closing : Bool → Work (Session σ) Unit}
    {w : Work (Session σ) α} (hopening : IsProgram db opening)
    (hclosing : ∀ success, IsProgram db (closing success)) (hw : IsProgram db w) :
    IsProgram db (Work.enclosed opening closing w) :=
  hopening.bind fun _ => hw.concluding hclosing

/-- By induction on the list, one program after another. -/
theorem forM {f : β → Work (Session σ) PUnit} (xs : List β) (hf : ∀ x, IsProgram db (f x)) :
    IsProgram db (xs.forM f) := by
  induction xs with
  | nil => exact pure _
  | cons x xs ih => exact (hf x).bind fun _ => ih

/-- A unit on a session alone is one on any subject. -/
theorem onSession_enclosed (opening : Work (Session σ) Unit)
    (closing : Bool → Work (Session σ) Unit) (w : Work (Session σ) α) :
    (Database.onSession (Work.enclosed opening closing w) : Work (τ × Session σ) α)
      = Work.enclosed (Database.onSession opening)
          (fun success => Database.onSession (closing success)) (Database.onSession w) := by
  apply Work.ext
  intro s
  rw [UnitTree.exec_onSession, Work.enclosed, Work.enclosed, Work.exec_bind, Work.exec_bind,
    UnitTree.exec_onSession]
  rcases opening.exec s.2 with ⟨_ | a, s'⟩ <;> rfl

/-- A unit with no transaction around a program. -/
theorem readOnly {w : Work (Session σ) α} (hw : IsProgram db w) :
    IsProgram db (db.readOnly w) := by
  intro τ
  rw [Database.readOnly, onSession_enclosed]
  exact (hw τ).inUnit none

/-- A unit with a transaction around a program. -/
theorem transaction {w : Work (Session σ) α} (hw : IsProgram db w) :
    IsProgram db (db.transaction w) := by
  intro τ
  rw [Database.transaction, onSession_enclosed]
  exact (hw τ).inUnit (some db.settings.isolation)

/-- A statement is a leaf. -/
theorem execute (statement : Statement) : IsProgram db (db.execute statement) :=
  fun _ => ⟨.execute statement, rfl⟩

/-- A query is a leaf. -/
theorem fetch (statement : Statement) : IsProgram db (db.fetch statement) :=
  fun _ => ⟨.fetch statement, rfl⟩

/-- Work on another subject, which is given back with the outcome. -/
theorem onOther {w : Work (ρ × Session σ) α} (other : ρ) (hw : IsTree db w) :
    IsTree db (UnitTree.onOther other w : Work (τ × Session σ) (Result α × ρ)) := by
  obtain ⟨t, rfl⟩ := hw
  exact ⟨.scope other t, rfl⟩

/-- Work on a subject that is needed no longer. -/
theorem onCopy {w : Work (ρ × Session σ) α} (subject : ρ) (hw : IsTree db w) :
    IsProgram db (Dao.onCopy subject w) := by
  intro τ
  have heq : (Database.onSession (Dao.onCopy subject w) : Work (τ × Session σ) α)
      = UnitTree.onOther subject w >>= fun outcome => Work.ofResult outcome.1 := rfl
  rw [heq]
  exact (onOther subject hw).bind fun outcome => IsTree.ofResult _

/-- A unit around a tree is balanced where no unit is open. -/
theorem balanced {db : Database σ} {w : Work (Session (Recorded Event σ)) α}
    (level : Option Isolation) (hw : IsProgram db.recorded w)
    {s : Session (Recorded Event σ)} (hs : s.units = {}) :
    Balanced [Frame.of db.recorded level (fun s => (w.exec s).1) s] s
      ((Work.enclosed (db.recorded.openUnit level)
        (fun success => db.recorded.closeUnit (level.map fun _ => success)) w).exec s).2 := by
  -- The program is looked at beside the subject that says nothing.
  obtain ⟨t, ht⟩ := hw Unit
  have hunit : (UnitTree.unit level t).run db.recorded
      = Database.onSession (Work.enclosed (db.recorded.openUnit level)
          (fun success => db.recorded.closeUnit (level.map fun _ => success)) w) := by
    rw [onSession_enclosed, UnitTree.run, ht]
    rfl
  have h := UnitTree.run_unit db level t (s := ((), s)) hs
  rw [hunit, ht] at h
  exact h

end IsProgram

/-- A transaction with a subject of its own is one like any other, if the
subject is needed no longer. -/
theorem Dao.onCopy_transactionOn (subject : τ) (w : Work (τ × Session σ) α) :
    Dao.onCopy subject (db.transactionOn w) = db.transaction (Dao.onCopy subject w) := by
  apply Work.ext
  intro s
  -- Both open the unit in the same way; if that fails, neither does anything else.
  rcases hopen : db.openTransaction.exec s with ⟨e | _, t⟩
  · have hopen' : (Database.onSession db.openTransaction).exec (subject, s)
        = (.error e, (subject, t)) := by rw [UnitTree.exec_onSession, hopen]
    rw [Database.transaction, Work.exec_enclosed_error hopen, Dao.onCopy, Work.exec_of,
      Database.transactionOn, Work.exec_enclosed_error hopen']
  · have hopen' : (Database.onSession db.openTransaction).exec (subject, s)
        = (.ok (), (subject, t)) := by rw [UnitTree.exec_onSession, hopen]
    rw [Database.transaction, Work.exec_enclosed_ok hopen, Dao.onCopy, Work.exec_of,
      Database.transactionOn, Work.exec_enclosed_ok hopen']
    rfl

end DataAccess
