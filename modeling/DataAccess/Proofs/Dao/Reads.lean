import DataAccess.Dao.Delete
import DataAccess.Dao.Load
import DataAccess.Proofs.Criteria.Change

/-!
# `DataAccess.Proofs.Dao.Reads`: operations on a criteria, run as a whole

Some operations are lent a criteria and set its limits aside while they make
a statement of it. What they do then is work on the session alone:
`Dao.loading`, `existing`, `counting` and `cascading`.

A count for a criteria is one statement, whatever limits the criteria has
(`Dao.countByCriteria_exec`), and a page is a find and perhaps a count: the
count follows only a find with rows, and only as long as the total is not
known (`Dao.findPage_start`).
-/

set_option autoImplicit false

namespace DataAccess

variable {σ ι ε α : Type}

/-- Without its limits a criteria means all rows. -/
theorem Criteria.window_suspendLimits (c : Criteria ι) : c.suspendLimits.window = .all := by
  unfold window suspendLimits
  cases c.paging <;> rfl

namespace Dao

variable (dao : Dao σ ι ε) (c : Criteria ι)

/-- Counts the entities of a criteria, whatever limits it has. -/
def counting : Work (Session σ) UInt64 :=
  dao.read "count" (dao.fetchCount (c.suspendLimits.count dao.model.schema))

/-- Reads the first entity of a criteria, whatever limits it has. -/
def loading : Work (Session σ) (Option ε) := do
  let found ← dao.read "load"
    (dao.fetchHooked c ((c.suspendLimits.setLimit (some 1)).find dao.model.schema))
  return found.head?

/-- Sees whether a criteria has entities, whatever limits it has. -/
def existing : Work (Session σ) Bool :=
  dao.read "exists" do
    let rows ← dao.db.fetch ((c.suspendLimits.setLimit (some 1)).exist dao.model.schema)
    return !rows.isEmpty

/-- Deletes the entities of a criteria and those that depend on them,
whatever limits it has. -/
def cascading [DecidableEq ι] : Work (Session σ) UInt64 := do
  let select ← Work.ofResult (dao.selectIds c.suspendLimits)
  dao.deleting c (dao.deleteCascadeRows select)

/-- A statement is made of a criteria whose limits are set aside, and it
gets them back. -/
theorem exec_limitedTo (s : Session σ) (limit : Option UInt64) (build : Criteria ι → α) :
    (Database.onSubject (Criteria.limitedTo limit build)).exec (c, s)
      = (.ok (build (c.suspendLimits.setLimit limit)), (c, s)) := by
  rw [Database.onSubject, Work.exec_within, Criteria.exec_limitedTo]

/-- Work on the session leaves the criteria alone. -/
theorem exec_onSession (s : Session σ) (w : Work (Session σ) α) :
    (Database.onSession w).exec (c, s) = ((w.exec s).1, (c, (w.exec s).2)) := rfl

/-- A cascading delete is work on the session, once its statement is built. -/
theorem deleteCascadeByCriteria_cascading [DecidableEq ι] (s : Session σ) :
    dao.deleteCascadeByCriteria.exec (c, s)
      = (Database.onSession (dao.cascading c)).exec (c, s) := by
  rw [deleteCascadeByCriteria, Work.exec_bind_ok (exec_limitedTo c s _ _), exec_onSession,
    cascading]
  show (Work.ofResult (dao.selectIds c.suspendLimits) >>= _).exec (c, s) = _
  cases dao.selectIds c.suspendLimits <;> rfl

variable (s : Session σ)

/-- The COUNT statement is built without the limits, which are given back. -/
theorem exec_countStatement :
    (Database.onSubject (Criteria.limitedTo none fun c => c.count dao.model.schema)).exec (c, s)
      = (.ok (c.suspendLimits.count dao.model.schema), (c, s)) :=
  exec_limitedTo c s none _

/-- Counting sends the COUNT statement and leaves the criteria. -/
theorem countByCriteria_exec :
    dao.countByCriteria.exec (c, s)
      = (((dao.counting c).exec s).1, (c, ((dao.counting c).exec s).2)) := by
  rw [countByCriteria, Work.exec_bind_ok (exec_countStatement dao c s)]
  rfl

/-- Loading is work on the session, once its statement is built. -/
theorem loadByCriteria_exec :
    dao.loadByCriteria.exec (c, s) = (Database.onSession (dao.loading c)).exec (c, s) := by
  rw [loadByCriteria, Work.exec_bind_ok (exec_limitedTo c s _ _), Work.exec_get_bind]
  dsimp only
  rw [exec_onSession, loading, Work.exec_bind, exec_onSession, Work.exec_bind]
  rcases (dao.read "load" (dao.fetchHooked c
    ((c.suspendLimits.setLimit (some 1)).find dao.model.schema))).exec s with ⟨_ | _, t⟩ <;> rfl

/-- Asking whether a row exists is work on the session, too. -/
theorem existsByCriteria_exec :
    dao.existsByCriteria.exec (c, s) = (Database.onSession (dao.existing c)).exec (c, s) :=
  Work.exec_bind_ok (exec_limitedTo c s _ _)

/-- Only the page of a criteria that is paged can be found. -/
theorem findPage_unpaged (h : c.paging = none) :
    dao.findPage.exec (c, s) = (.error (.invalidInput .pageOfUnpaged), (c, s)) := by
  rw [findPage, Work.exec_get_bind]
  dsimp only
  rw [pagingOf, h]
  rfl

section Pages
variable {c s} {paging : Paging} {items : List ε} {t u : Session σ} {e : Error}

/-- A page is found first, and counted only if it has rows and its total is
not known. -/
theorem findPage_start (h : c.paging = some paging) :
    dao.findPage.exec (c, s)
      = (Database.onSession (dao.findByCriteria c) >>= fun items =>
          if items.isEmpty || paging.isTotalKnown then return .of items paging
          else do
            let total ← Database.onSession (dao.counting c)
            Database.onSubject (modify (Criteria.setPaging (paging.setTotal total)))
            return .of items (paging.setTotal total)).exec (c, s) := by
  rw [findPage, Work.exec_get_bind]
  dsimp only
  rw [pagingOf, h, Work.exec_bind_ok (Work.exec_ofResult _ _),
    Work.exec_bind_ok (exec_countStatement dao c s)]
  rfl

/-- A page whose rows cannot be read is not counted. -/
theorem findPage_unfound (h : c.paging = some paging)
    (hfind : (dao.findByCriteria c).exec s = (.error e, t)) :
    dao.findPage.exec (c, s) = (.error e, (c, t)) := by
  rw [findPage_start dao h, Work.exec_bind, exec_onSession, hfind]

/-- Without rows, or with a total that is known, there is no count. -/
theorem findPage_uncounted (h : c.paging = some paging)
    (hfind : (dao.findByCriteria c).exec s = (.ok items, t))
    (hdone : (items.isEmpty || paging.isTotalKnown) = true) :
    dao.findPage.exec (c, s) = (.ok (.of items paging), (c, t)) := by
  rw [findPage_start dao h, Work.exec_bind, exec_onSession, hfind]
  dsimp only
  rw [if_pos hdone]
  rfl

/-- A total that was counted is the criteria's from then on. -/
theorem findPage_counted (h : c.paging = some paging)
    (hfind : (dao.findByCriteria c).exec s = (.ok items, t))
    (hcount : (items.isEmpty || paging.isTotalKnown) = false) {total : UInt64}
    (htotal : (dao.counting c).exec t = (.ok total, u)) :
    dao.findPage.exec (c, s)
      = (.ok (.of items (paging.setTotal total)), (c.setPaging (paging.setTotal total), u)) := by
  rw [findPage_start dao h, Work.exec_bind, exec_onSession, hfind]
  dsimp only
  rw [hcount, if_neg Bool.false_ne_true, Work.exec_bind, exec_onSession, htotal]
  rfl

/-- A count that fails leaves the total unknown. -/
theorem findPage_unsettled (h : c.paging = some paging)
    (hfind : (dao.findByCriteria c).exec s = (.ok items, t))
    (hcount : (items.isEmpty || paging.isTotalKnown) = false)
    (htotal : (dao.counting c).exec t = (.error e, u)) :
    dao.findPage.exec (c, s) = (.error e, (c, u)) := by
  rw [findPage_start dao h, Work.exec_bind, exec_onSession, hfind]
  dsimp only
  rw [hcount, if_neg Bool.false_ne_true, Work.exec_bind, exec_onSession, htotal]

end Pages

end Dao

end DataAccess
