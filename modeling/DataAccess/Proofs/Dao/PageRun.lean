import DataAccess.Dao.Delete
import DataAccess.Proofs.Criteria.KnownTotal
import DataAccess.Proofs.Dao.PageTurn

/-!
# `DataAccess.Proofs.Dao.PageRun`: one criteria through many turns

A program finds pages of one criteria, changes it in between and uses it
for other operations: each of these is a `Turn`, and `Dao.trace` is what
takes place in many of them, one after another, whether they fail or not.
What takes place in one turn is of three kinds (`Turned.Goes`): the
conditions change and the total is forgotten, or both are left alone, or a
page is found in one of the ways of `PageTurn`.

`Turn.goes` is the fact about one turn. `Dao.passes_trace` puts the turns
together: each one begins with the criteria that the one before it left.
-/

set_option autoImplicit false

namespace DataAccess

variable {σ τ ι ε α β : Type}

/-! ### Turns -/

/-- An operation that is given the criteria, or that is not about it. -/
inductive Use (σ : Type) where
  | load
  | count
  | exist
  | project (names : List String)
  | deleteCascade
  /-- Anything that is done with the session. -/
  | session (work : Work (Session σ) Unit)

/-- Something that is done with the criteria, or next to it. -/
inductive Turn (σ : Type) where
  | change (step : Criteria.Change)
  | use (operation : Use σ)
  /-- Its page is found. -/
  | page

/-- The page is not written by hand. -/
def Turn.Admissible : Turn σ → Prop
  | .change step => step.writesPaging = false
  | _ => True

/-- What took place in a turn. -/
structure Turned (ι ε : Type) where
  /-- The criteria before it. -/
  before : Criteria ι
  /-- The criteria after it. -/
  after : Criteria ι
  /-- Conditions were added or cleared. -/
  renewed : Bool
  /-- What was done to find a page. -/
  acts : List (Act ι ε)
  /-- The page that was found. -/
  page? : Option (Page ε)

/-- The work of a use, without its result. -/
def Use.work [DecidableEq ι] (dao : Dao σ ι ε) : Use σ → Work (Criteria ι × Session σ) Unit
  | .load => do let _ ← dao.loadByCriteria
  | .count => do let _ ← dao.countByCriteria
  | .exist => do let _ ← dao.existsByCriteria
  | .project names => do let _ ← dao.project names
  | .deleteCascade => do let _ ← dao.deleteCascadeByCriteria
  | .session work => Database.onSession work

/-- What takes place in a turn, and the criteria and the session after
it. -/
def Turn.take [DecidableEq ι] (dao : Dao σ ι ε) (turn : Turn σ) (p : Criteria ι × Session σ) :
    Turned ι ε × Criteria ι × Session σ :=
  match turn with
  | .change step =>
    let (result, c) := (step.work dao.model.schema).exec p.1
    (⟨p.1, c, step.renews && result.isOk, [], none⟩, (c, p.2))
  | .use operation =>
    let (_, q) := (operation.work dao).exec p
    (⟨p.1, q.1, false, [], none⟩, q)
  | .page =>
    let (result, q) := dao.findPage.exec p
    let noted := dao.noted.findPage.exec (p.1, Dao.unnoted p.2)
    (⟨p.1, q.1, false, noted.2.2.world.log, result.toOption⟩, q)

/-- What takes place in many turns. -/
def Dao.trace [DecidableEq ι] (dao : Dao σ ι ε) :
    List (Turn σ) → Criteria ι × Session σ → List (Turned ι ε)
  | [], _ => []
  | turn :: turns, p => (turn.take dao p).1 :: dao.trace turns (turn.take dao p).2

/-! ### What a use keeps -/

namespace Use

variable {P : Criteria ι → Prop}

/-- Work on the criteria keeps what it keeps, with the session beside it. -/
theorem keeps_onSubject {w : Work (Criteria ι) α} (hw : Work.Keeps P w) :
    Work.Keeps (fun p => P p.1) (Database.onSubject (σ := σ) w) :=
  Work.keeps_within (fun _ h => h) hw fun _ _ _ h => h

/-- Work on the session does not touch the criteria. -/
theorem keeps_onSession (w : Work (Session σ) α) :
    Work.Keeps (fun p => P p.1) (Database.onSession w) :=
  fun _ h => h

/-- A limit that is lent for building a statement is taken back. -/
theorem keeps_limitedTo (limit : Option UInt64) (build : Criteria ι → α) :
    Work.Keeps P (Criteria.limitedTo limit build) := by
  intro c hc
  rw [Criteria.exec_limitedTo]
  exact hc

/-- Uses register joins, and leave everything else of the criteria as it
was. -/
theorem keeps_counted [DecidableEq ι] (dao : Dao σ ι ε) (use : Use σ) (c₀ : Criteria ι) :
    Work.Keeps (fun p => Criteria.CountedAs c₀ p.1) (use.work dao) := by
  -- The joins come from the names a projection resolves; limits are given back.
  cases use with
  | load =>
      refine Work.keeps_bind (Work.keeps_bind (keeps_onSubject (keeps_limitedTo _ _))
        fun statement => ?_) fun _ => Work.keeps_pure _
      refine Work.keeps_get_bind fun p _ => ?_
      exact Work.keeps_bind (keeps_onSession _) fun _ => Work.keeps_pure _
  | count =>
      exact Work.keeps_bind (Work.keeps_bind (keeps_onSubject (keeps_limitedTo _ _))
        fun statement => keeps_onSession _) fun _ => Work.keeps_pure _
  | exist =>
      exact Work.keeps_bind (Work.keeps_bind (keeps_onSubject (keeps_limitedTo _ _))
        fun statement => keeps_onSession _) fun _ => Work.keeps_pure _
  | project names =>
      have hresolve := Criteria.resolvable_countedAs dao.model.schema c₀
      refine Work.keeps_bind (Work.keeps_bind (keeps_onSubject
        (Work.keeps_mapM names hresolve.resolveField)) fun columns => ?_)
        fun _ => Work.keeps_pure _
      exact Work.keeps_bind (keeps_onSubject (keeps_limitedTo _ _)) fun _ => keeps_onSession _
  | deleteCascade =>
      refine Work.keeps_bind (Work.keeps_bind (keeps_onSubject (keeps_limitedTo _ _))
        fun select => ?_) fun _ => Work.keeps_pure _
      refine Work.keeps_bind (Work.keeps_ofResult _) fun select => ?_
      exact Work.keeps_get_bind fun p _ => keeps_onSession _
  | session work => exact keeps_onSession work

end Use

/-! ### How turns go -/

/-- What took place in a turn is of one of three kinds. -/
inductive Turned.Goes (schema : Schema ι) (t : Turned ι ε) : Prop where
  /-- Conditions were added or cleared, and the total is not known. -/
  | renews (renewed : t.renewed = true) (idle : t.acts = []) (pageless : t.page? = none)
      (unknown : t.after.knownTotal = 0)
  /-- Conditions and total are as they were. -/
  | rests (steady : t.renewed = false) (idle : t.acts = []) (pageless : t.page? = none)
      (counted : Criteria.CountedAs t.before t.after)
  /-- A page was to be found. -/
  | turns {result : Result (Page ε)} (steady : t.renewed = false)
      (turn : PageTurn schema t.before t.acts result t.after) (page : t.page? = result.toOption)

/-- Every admissible turn goes as `Turned.Goes` says, whatever the dao and
the criteria. -/
theorem Turn.goes [DecidableEq ι] (dao : Dao σ ι ε) {turn : Turn σ} (hturn : turn.Admissible)
    (p : Criteria ι × Session σ) : (turn.take dao p).1.Goes dao.model.schema := by
  cases turn with
  | change step =>
      rcases hrun : (step.work dao.model.schema).exec p.1 with ⟨result, c⟩
      have htake : ((Turn.change step).take dao p).1
          = ⟨p.1, c, step.renews && result.isOk, [], none⟩ := by
        rw [Turn.take, hrun]
      rw [htake]
      cases hrenews : step.renews with
      | false =>
          have hkept := Criteria.Change.keeps_counted dao.model.schema p.1 hrenews hturn p.1
            ⟨rfl, rfl⟩
          rw [hrun] at hkept
          exact .rests rfl rfl rfl hkept
      | true =>
          cases result with
          | ok _ => exact .renews rfl rfl rfl (Criteria.Change.forgets hrenews hrun)
          | error e =>
              -- A change that fails leaves the criteria as it was.
              obtain rfl : c = p.1 := step.atomic dao.model.schema p.1 e c hrun
              exact .rests rfl rfl rfl ⟨rfl, rfl⟩
  | use operation =>
      exact .rests rfl rfl rfl (operation.keeps_counted dao p.1 p ⟨rfl, rfl⟩)
  | page =>
      obtain ⟨hsame, hpage⟩ := dao.pageTurn p.1 p.2
      have htake : (Turn.page.take dao p).1
          = ⟨p.1, (dao.noted.findPage.exec (p.1, Dao.unnoted p.2)).2.1, false,
              (dao.noted.findPage.exec (p.1, Dao.unnoted p.2)).2.2.world.log,
              (dao.noted.findPage.exec (p.1, Dao.unnoted p.2)).1.toOption⟩ := by
        rw [Turn.take, hsame]
      rw [htake]
      exact .turns rfl hpage rfl

/-! ### Many turns -/

/-- Turns that follow each other, from the criteria `c` to the criteria
`d`. -/
inductive Passes (schema : Schema ι) : Criteria ι → List (Turned ι ε) → Criteria ι → Prop where
  | nil (c : Criteria ι) : Passes schema c [] c
  | cons {t : Turned ι ε} {ts : List (Turned ι ε)} {d : Criteria ι} (goes : t.Goes schema)
      (rest : Passes schema t.after ts d) : Passes schema t.before (t :: ts) d

namespace Passes

variable {schema : Schema ι} {c d : Criteria ι} {t : Turned ι ε} {ts : List (Turned ι ε)}

/-- Without turns the criteria stays. -/
theorem of_nil (h : Passes schema c ([] : List (Turned ι ε)) d) : d = c := by
  cases h with
  | nil => rfl

/-- A run begins with its first turn. -/
theorem of_cons (h : Passes schema c (t :: ts) d) :
    c = t.before ∧ t.Goes schema ∧ Passes schema t.after ts d := by
  generalize hall : t :: ts = all at h
  cases h with
  | nil => cases hall
  | cons goes rest =>
      obtain ⟨rfl, rfl⟩ := List.cons.inj hall
      exact ⟨rfl, goes, rest⟩

/-- A run of one turn is that turn. -/
theorem of_singleton (h : Passes schema c [t] d) :
    c = t.before ∧ t.Goes schema ∧ d = t.after := by
  obtain ⟨hc, goes, rest⟩ := h.of_cons
  exact ⟨hc, goes, rest.of_nil⟩

/-- A run can be cut between any two turns. -/
theorem split {earlier later : List (Turned ι ε)} (h : Passes schema c (earlier ++ later) d) :
    ∃ m, Passes schema c earlier m ∧ Passes schema m later d := by
  induction earlier generalizing c with
  | nil => exact ⟨c, .nil c, h⟩
  | cons t ts ih =>
      obtain ⟨rfl, goes, rest⟩ := h.of_cons
      obtain ⟨m, hearlier, hlater⟩ := ih rest
      exact ⟨m, .cons goes hearlier, hlater⟩

end Passes

/-- Each turn begins with the criteria that the one before it left. -/
theorem Turn.take_before [DecidableEq ι] (dao : Dao σ ι ε) (turn : Turn σ)
    (p : Criteria ι × Session σ) :
    (turn.take dao p).1.before = p.1 ∧ (turn.take dao p).1.after = (turn.take dao p).2.1 := by
  cases turn <;> exact ⟨rfl, rfl⟩

/-- A trace passes through its turns, each where the one before it left the
criteria. -/
theorem Dao.passes_trace [DecidableEq ι] (dao : Dao σ ι ε) {turns : List (Turn σ)}
    (hturns : ∀ turn ∈ turns, turn.Admissible) (p : Criteria ι × Session σ) :
    ∃ d, Passes dao.model.schema p.1 (dao.trace turns p) d := by
  induction turns generalizing p with
  | nil => exact ⟨p.1, .nil p.1⟩
  | cons turn turns ih =>
      obtain ⟨hturn, hrest⟩ := List.forall_mem_cons.mp hturns
      obtain ⟨d, hpasses⟩ := ih hrest (turn.take dao p).2
      -- The other turns begin with the criteria that this one leaves.
      obtain ⟨hbefore, hafter⟩ := turn.take_before dao p
      rw [← hafter] at hpasses
      rw [← hbefore]
      exact ⟨d, .cons (turn.goes dao hturn p) hpasses⟩

end DataAccess
