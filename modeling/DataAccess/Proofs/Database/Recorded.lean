import DataAccess.Database.Basic
import DataAccess.Proofs.Support.Work

/-!
# `DataAccess.Proofs.Database.Recorded`: what a database asks of its source

`Database.noted` is a database whose source keeps a record, with an entry
for every call and its outcome; what the calls do and how they end is the
same. `Database.recorded` is the one whose entries are the calls
themselves.

`Notes P noted w` says that `noted` does what `w` does, and adds to the
record calls that `P` relates to the outcome.
-/

set_option autoImplicit false

namespace DataAccess

variable {σ κ α : Type}

/-- The database, with a record of what is asked of its source. -/
def Database.recorded (db : Database σ) : Database (Recorded Event σ) :=
  ⟨db.source.recorded id, db.dialect, db.settings⟩

/-- The session without the record of its source. -/
def Session.erased (s : Session (Recorded κ σ)) : Session σ :=
  ⟨s.units, s.world.state⟩

/-- The database, with entries in a record for what is asked of its
source. -/
def Database.noted (entry : Event → κ) (db : Database σ) : Database (Recorded κ σ) :=
  ⟨db.source.recorded entry, db.dialect, db.settings⟩

namespace Recorded

/-- The work `noted` does what `w` does, and adds events to the record,
which `P` relates to the outcome. -/
def Notes (entry : Event → κ) (P : Result α → List Event → Prop)
    (noted : Work (Recorded κ σ) α) (w : Work σ α) : Prop :=
  ∀ r, ∃ events,
    noted.exec r = ((w.exec r.state).1, ⟨r.log ++ events.map entry, (w.exec r.state).2⟩) ∧
      P (w.exec r.state).1 events

/-- A call of the source is noted with its outcome. -/
theorem exec_noting (entry : Result α → κ) {w : Work σ α} {r : Recorded κ σ} {result : Result α}
    {state : σ} (h : w.exec r.state = (result, state)) :
    (noting entry w).exec r = (result, ⟨r.log ++ [entry result], state⟩) := by
  rw [noting, Work.exec_of, h]
  rfl

end Recorded

end DataAccess
