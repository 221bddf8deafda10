import DataAccess.Proofs.Dao.PageTurn

/-!
# `DataAccess.Proofs.Dao.Loan`: criteria that are lent to an operation

Some operations are given a criteria to change: they set its limits aside
while they make a statement of it. A `Loan` is one of these operations.
`Loan.Returns` says what it may leave of the criteria, and `Loan.Sends`
what it sends, as text: the statement of the criteria without any limit,
and after it the limit of the operation, if it has one.

`Loan.run_returned` is the principal theorem. It holds for every source and
all hooks, whatever units are open, and wherever the operation fails. What
the hooks themselves send is not an act of the operation.
-/

set_option autoImplicit false

namespace DataAccess

variable {σ ι ε S T α β : Type}

/-! ### Windows -/

/-- The statement for the rows of another window, if it reads rows. -/
def Statement.within (window : Window) : Statement → Statement
  | .find rows columns => .find { rows with window := window } columns
  | .project rows expressions => .project { rows with window := window } expressions
  | .count rows => .count { rows with window := window }
  | .exist rows => .exist { rows with window := window }
  | st => st

/-- The statement reads rows of a table. -/
def Statement.readsRows : Statement → Bool
  | .find .. | .project .. | .count _ | .exist _ => true
  | _ => false

namespace Dialect

variable (d : Dialect)

/-- The window of rows is the last thing that is said of them. -/
theorem source_within (rows : Selection) (window : Window) :
    d.source { rows with window := window }
      = d.source { rows with window := .all } ++ d.windowClause window := by
  simp [source, clauses, rowClauses, windowClause, String.append_assoc]

/-- A statement that reads rows is the one that reads all of them, with its
window at the end. -/
theorem sql_within {st : Statement} (h : st.readsRows = true) (window : Window) :
    d.sql (st.within window) = (d.sql (st.within .all)).append (d.windowClause window) := by
  have hsource (head : String) (rows : Selection) :
      head ++ d.source { rows with window := window }
        = head ++ d.source { rows with window := .all } ++ d.windowClause window := by
    rw [source_within, String.append_assoc]
  -- The window is the last clause of everything that is read.
  have htext : d.text (st.within window) = d.text (st.within .all) ++ d.windowClause window := by
    cases st with
    | find rows columns => exact hsource _ rows
    | project rows expressions => exact hsource _ rows
    | count rows => exact hsource _ rows
    | exist rows => exact hsource _ rows
    | update | delete | insert | raw => cases h
  have hparams : (st.within window).params = (st.within .all).params := by
    cases st <;> rfl
  rw [sql, htext, hparams]
  rfl

end Dialect

namespace Criteria

variable (schema : Schema ι) (c : Criteria ι)

/-- Without its limits a criteria means all rows that it selects. -/
theorem selection_suspendLimits :
    c.suspendLimits.selection schema = { c.selection schema with window := .all } := by
  rw [selection, window_suspendLimits]
  rfl

/-- With a limit put in their place it means so many of them. -/
theorem selection_limited (rows : UInt64) :
    (c.suspendLimits.setLimit (some rows)).selection schema
      = { c.selection schema with window := .limit rows } := by
  have hwindow : (c.suspendLimits.setLimit (some rows)).window = .limit rows := by
    unfold window suspendLimits setLimit
    cases c.paging <;> rfl
  rw [selection, hwindow]
  rfl

/-- The only limit of a criteria whose limits are set aside is the one it
is given. -/
theorem sql_find_limited (d : Dialect) :
    d.sql ((c.suspendLimits.setLimit (some 1)).find schema)
      = (d.sql ((c.find schema).within .all)).append " LIMIT 1" := by
  have hfind : (c.suspendLimits.setLimit (some 1)).find schema
      = (c.find schema).within (.limit 1) := by
    rw [find, selection_limited]
    rfl
  rw [hfind, d.sql_within rfl]
  rfl

/-- A look for rows asks for one of them at most. -/
theorem sql_exist_limited (d : Dialect) :
    d.sql ((c.suspendLimits.setLimit (some 1)).exist schema)
      = (d.sql ((c.exist schema).within .all)).append " LIMIT 1" := by
  have hexist : (c.suspendLimits.setLimit (some 1)).exist schema
      = (c.exist schema).within (.limit 1) := by
    rw [exist, selection_limited]
    rfl
  rw [hexist, d.sql_within rfl]
  rfl

/-- All rows are counted. -/
theorem count_suspendLimits : c.suspendLimits.count schema = (c.count schema).within .all := by
  rw [count, selection_suspendLimits]
  rfl

/-- Columns are read of all rows. -/
theorem project_suspendLimits (columns : List ColumnRef) :
    c.suspendLimits.project schema columns = (c.project schema columns).within .all := by
  rw [project, selection_suspendLimits]
  rfl

/-- A find reads the rows in the window of the criteria. -/
theorem sql_find (d : Dialect) :
    d.sql (c.find schema)
      = (d.sql ((c.find schema).within .all)).append (d.windowClause c.window) := by
  have hreads : (c.find schema).readsRows = true := rfl
  exact d.sql_within hreads c.window

end Criteria

/-! ### What is sent -/

namespace Act

/-- What was sent, if this is a statement. -/
def sql? : Act ι ε → Option Sql
  | .event (.execute _ command _) => some command.sql
  | .event (.fetch _ command _) => some command.sql
  | _ => none

/-- What was sent, in order. -/
def sent (acts : List (Act ι ε)) : List Sql :=
  acts.filterMap sql?

/-- Statements are sent in the order of the acts. -/
theorem sent_append (acts later : List (Act ι ε)) :
    sent (acts ++ later) = sent acts ++ sent later :=
  List.filterMap_append

/-- Events that are no statements send nothing. -/
theorem sent_of_unstated {events : List Event}
    (h : ∀ event ∈ events, event.isStatement = false) :
    sent (events.map (Act.event (ι := ι) (ε := ε))) = [] := by
  refine List.filterMap_eq_nil_iff.mpr fun act hact => ?_
  obtain ⟨event, hevent, rfl⟩ := List.mem_map.mp hact
  have hunstated := h event hevent
  cases event with
  | execute | fetch => cases hunstated
  | _ => rfl

end Act

/-- Hooks send nothing of their own. -/
theorem Called.sent {told : Told ι ε → Prop} {hooks : List Hook} {acts : List (Act ι ε)}
    {failure : Option Error} (h : Called told hooks acts failure) : Act.sent acts = [] := by
  induction h with
  | done => rfl
  | failed => rfl
  | passed _ _ ih => exact ih

/-- Nothing is sent. -/
def Mute (_u _u' : Units) (added : List (Act ι ε)) (_result : Result α) : Prop :=
  Act.sent added = []

/-- What is sent is as `P` says, unless the work fails before anything is
sent. -/
def Sending (P : List Sql → Prop) (_u _u' : Units) (added : List (Act ι ε)) (result : Result α) :
    Prop :=
  P (Act.sent added) ∨ Act.sent added = [] ∧ result.isOk = false

namespace Tracks

section Rules
variable {v : View S T σ (Act ι ε)} {P : List Sql → Prop} {noted : Work S α} {w : Work T α}

/-- An error that is replaced does not change what was sent. -/
theorem sending_mapError {f : Error → Error} (h : Tracks v (Sending P) noted w) :
    Tracks v (Sending P) (noted.mapError f) (w.mapError f) := by
  refine h.mapError.mono ?_
  rintro u u' added result ⟨own, hsent, rfl⟩
  refine hsent.imp_right fun ⟨hnone, hfailed⟩ => ⟨hnone, ?_⟩
  cases own with
  | ok _ => cases hfailed
  | error _ => rfl

/-- Neither what opens work nor what closes it sends anything. -/
theorem sending_enclosed {opening : Work S Unit} {opening' : Work T Unit}
    {closing : Bool → Work S Unit} {closing' : Bool → Work T Unit}
    (hopening : Tracks v Mute opening opening')
    (hclosing : ∀ success, Tracks v Mute (closing success) (closing' success))
    (h : Tracks v (Sending P) noted w) :
    Tracks v (Sending P) (Work.enclosed opening closing noted)
      (Work.enclosed opening' closing' w) := by
  have hrest : Tracks v (Sending P) (noted.concluding closing) (w.concluding closing') := by
    refine h.concluding hclosing ?_
    intro u u₁ u₂ added later own late hsent hlater
    rw [Sending, Act.sent_append, show Act.sent later = [] from hlater, List.append_nil]
    refine hsent.imp_right fun ⟨hnone, hfailed⟩ => ⟨hnone, ?_⟩
    -- The work failed already, and what concludes it does not change that.
    cases own with
    | ok _ => cases hfailed
    | error _ => rfl
  refine hopening.bind (fun _ => hrest) ?_ ?_
  · intro u u' added e hmute
    exact .inr ⟨hmute, rfl⟩
  · intro u u₁ u₂ added later _ result hmute hsent
    rw [Sending, Act.sent_append, show Act.sent added = [] from hmute, List.nil_append]
    exact hsent

/-- After one statement others may be sent, or none. -/
theorem sending_bind {first : Sql} {Q : List Sql → Prop} {noted' : α → Work S β}
    {w' : α → Work T β} (h : Tracks v (Sending (· = [first])) noted w)
    (h' : ∀ a, Tracks v (fun _ _ added _ => Q (Act.sent added)) (noted' a) (w' a)) (hQ : Q []) :
    Tracks v (Sending fun sqls => ∃ rest, sqls = first :: rest ∧ Q rest) (noted >>= noted')
      (w >>= w') := by
  refine h.bind h' ?_ ?_
  · intro u u' added e hsent
    exact hsent.imp_left fun hfirst => ⟨[], hfirst, hQ⟩
  -- A first part that succeeded sent its statement.
  · rintro u u₁ u₂ added later a result (hfirst | ⟨-, hfailed⟩) hlater
    · refine .inl ⟨Act.sent later, ?_, hlater⟩
      rw [Act.sent_append, hfirst]
      rfl
    · cases hfailed

/-- After what is sent nothing more is. -/
theorem sending_bind_mute {noted' : α → Work S β} {w' : α → Work T β}
    (h : Tracks v (Sending P) noted w) (h' : ∀ a, Tracks v Mute (noted' a) (w' a)) :
    Tracks v (Sending P) (noted >>= noted') (w >>= w') := by
  refine h.bind h' (fun u u' added e hsent => hsent) ?_
  intro u u₁ u₂ added later a result hsent hlater
  rw [Sending, Act.sent_append, show Act.sent later = [] from hlater, List.append_nil]
  refine hsent.imp_right fun hfailed => ?_
  cases hfailed.2

/-- A statement that reads, and what is made of the rows. -/
theorem sending_fetch (dao : Dao σ ι ε) (st : Statement) (read : List Row → Result α) :
    Tracks View.alone (Sending (· = [dao.db.dialect.sql st]))
      (dao.noted.db.fetch st >>= fun rows => Work.ofResult (read rows))
      (dao.db.fetch st >>= fun rows => Work.ofResult (read rows)) := by
  have hfetch : Tracks View.alone (Sending (ι := ι) (ε := ε) (· = [dao.db.dialect.sql st]))
      (dao.noted.db.fetch st) (dao.db.fetch st) := by
    refine (fetching dao.db st).mono ?_
    rintro _ u added result ⟨rfl, events, rfl, hsends⟩
    -- A query is sent on the connection, or fails for lack of one.
    generalize u.connection = connection at hsends
    cases hsends with
    | unsent => exact .inr ⟨rfl, rfl⟩
    | sent c => exact .inl rfl
  exact sending_bind_mute hfetch fun rows => .ofResult fun _ => rfl

end Rules

section Units
variable {P : List Sql → Prop} {noted : Work (Session (Recorded (Act ι ε) σ)) α}
  {w : Work (Session σ) α} (dao : Dao σ ι ε)

/-- To note a hook sends nothing. -/
theorem mute_noting (hook : Hook) (told : Told ι ε) (w : Work (Session σ) Unit) :
    Tracks View.alone Mute (Interceptor.noting hook told w) w :=
  (calling hook told w).mono fun _ _ _ _ hcalled => hcalled.sent

/-- Opening a unit sends no statement. -/
theorem mute_openUnit (level : Option Isolation) :
    Tracks View.alone (Mute (ι := ι) (ε := ε)) ((dao.db.noted .event).openUnit level)
      (dao.db.openUnit level) := by
  refine (opens Act.event dao.db level).mono ?_
  rintro u u' added result ⟨events, rfl, hopens⟩
  exact Act.sent_of_unstated hopens.unstated

/-- Closing a unit sends no statement. -/
theorem mute_closeUnit (verdict : Option Bool) :
    Tracks View.alone (Mute (ι := ι) (ε := ε)) ((dao.db.noted .event).closeUnit verdict)
      (dao.db.closeUnit verdict) := by
  refine (closeUnit Act.event dao.db verdict).mono ?_
  rintro u u' added result ⟨events, late, rfl, hcloses, -⟩
  exact Act.sent_of_unstated hcloses.unstated

/-- A read sends what its work sends. -/
theorem sending_read (operation : String) (h : Tracks View.alone (Sending P) noted w) :
    Tracks View.alone (Sending P) (dao.noted.read operation noted) (dao.read operation w) :=
  sending_enclosed (mute_openUnit dao none) (fun _ => mute_closeUnit dao none)
    (sending_mapError h)

/-- So does a write. -/
theorem sending_write (operation : String) (h : Tracks View.alone (Sending P) noted w) :
    Tracks View.alone (Sending P) (dao.noted.write operation noted) (dao.write operation w) :=
  sending_enclosed (mute_openUnit dao _) (fun success => mute_closeUnit dao (some success))
    (sending_mapError h)

/-- The entities of a criteria, read by some statement between the hooks. -/
theorem sending_fetchHooked (c : Criteria ι) (st : Statement) :
    Tracks View.alone (Sending (· = [dao.db.dialect.sql st])) (dao.noted.fetchHooked c st)
      (dao.fetchHooked c st) :=
  sending_enclosed (mute_noting _ _ _) (fun _ => mute_noting _ _ _)
    (sending_fetch dao st fun rows => rows.mapM (dao.model.mapRow dao.kind c.joins))

end Units

end Tracks

/-! ### Loans -/

namespace Tracks

variable (dao : Dao σ ι ε) (c : Criteria ι)

/-- A load sends the find of all rows, with a limit of one. -/
theorem sending_loading :
    Tracks View.alone
      (Sending (· = [(dao.db.dialect.sql ((c.find dao.model.schema).within .all)).append
        " LIMIT 1"]))
      (dao.noted.loading c) (dao.loading c) := by
  rw [← Criteria.sql_find_limited]
  exact sending_bind_mute (sending_read dao "load" (sending_fetchHooked dao c _)) fun found =>
    .pure fun _ => rfl

/-- A look for rows has a limit of one. -/
theorem sending_existing :
    Tracks View.alone
      (Sending (· = [(dao.db.dialect.sql ((c.exist dao.model.schema).within .all)).append
        " LIMIT 1"]))
      (dao.noted.existing c) (dao.existing c) := by
  rw [← Criteria.sql_exist_limited]
  exact sending_read dao "exists" (sending_fetch dao _ fun rows => .ok !rows.isEmpty)

/-- A count has no limit. -/
theorem sending_counting :
    Tracks View.alone
      (Sending (· = [dao.db.dialect.sql ((c.count dao.model.schema).within .all)]))
      (dao.noted.counting c) (dao.counting c) := by
  rw [← Criteria.count_suspendLimits, Dao.counting, Dao.counting, Dao.fetchCount_eq,
    Dao.fetchCount_eq]
  exact sending_read dao "count" (sending_fetch dao _ Dao.tally)

/-- A find has the window of its criteria. -/
theorem sending_findByCriteria :
    Tracks View.alone
      (Sending (· = [(dao.db.dialect.sql ((c.find dao.model.schema).within .all)).append
        (dao.db.dialect.windowClause c.window)]))
      (dao.noted.findByCriteria c) (dao.findByCriteria c) := by
  rw [← Criteria.sql_find]
  exact sending_read dao "find" (sending_fetchHooked dao c _)

/-- The first statement of a cascade reads the identities. -/
theorem sending_cascading [DecidableEq ι] :
    Tracks View.alone
      (Sending fun sqls => ∃ identity rest,
        (dao.model.schema c.root).identityField = .ok identity ∧
          sqls = dao.db.dialect.sql ((c.project dao.model.schema
            [⟨.main, identity.column⟩]).within .all) :: rest)
      (dao.noted.cascading c) (dao.cascading c) := by
  -- Without the identities of the root there is nothing to be sent.
  refine ofResult_bind (fun e he u => .inr ⟨rfl, rfl⟩) fun select hselect => ?_
  obtain ⟨identity, hidentity, hselect⟩ := Result.bind_eq_ok.mp hselect
  obtain rfl := Except.ok.inj hselect
  have hrows := sending_bind (Q := fun _ => True)
    (sending_fetch dao (c.suspendLimits.project dao.model.schema [⟨.main, identity.column⟩])
      Dao.readIds)
    (fun ids => (cascaded_deleteRoots dao ids).mono fun _ _ _ _ _ => trivial) trivial
  -- The hooks around the deletion and the unit send nothing themselves.
  have hwork := sending_write dao "deletion" (sending_enclosed
    (mute_noting .beforeDelete (.using c) (dao.hooks.beforeDelete c))
    (fun success => mute_noting .afterDelete (.used c success) (dao.hooks.afterDelete c success))
    hrows)
  refine mono hwork ?_
  rintro u u' added result (⟨rest, hsent, -⟩ | hfailed)
  · rw [Criteria.project_suspendLimits] at hsent
    exact .inl ⟨identity, rest, hidentity, hsent⟩
  · exact .inr hfailed

end Tracks

/-- An operation that is lent a criteria, with its result. -/
inductive Loan (ε : Type) : Type → Type where
  | load : Loan ε (Option ε)
  | exist : Loan ε Bool
  | count : Loan ε UInt64
  | page : Loan ε (Page ε)
  | cascade : Loan ε UInt64

namespace Loan

/-- What the operation does. -/
def work [DecidableEq ι] (dao : Dao σ ι ε) : Loan ε α → Work (Criteria ι × Session σ) α
  | load => dao.loadByCriteria
  | exist => dao.existsByCriteria
  | count => dao.countByCriteria
  | page => dao.findPage
  | cascade => dao.deleteCascadeByCriteria

/-- The criteria comes back as it was. Only a page may come back with the
number of all entities. -/
def Returns (c c' : Criteria ι) : Loan ε α → Prop
  | page => c' = c ∨ ∃ total, c' = { c with paging := c.paging.map (·.setTotal total) }
  | _ => c' = c

/-- What the operation sends for the criteria. -/
inductive Sends (d : Dialect) (schema : Schema ι) (c : Criteria ι) :
    {α : Type} → Loan ε α → List Sql → Prop where
  | load : Sends d schema c .load [(d.sql ((c.find schema).within .all)).append " LIMIT 1"]
  | exist : Sends d schema c .exist [(d.sql ((c.exist schema).within .all)).append " LIMIT 1"]
  | count : Sends d schema c .count [d.sql ((c.count schema).within .all)]
  /-- Only the find of a page keeps to the limits of the criteria. -/
  | found : Sends d schema c .page
      [(d.sql ((c.find schema).within .all)).append (d.windowClause c.window)]
  | counted : Sends d schema c .page
      [(d.sql ((c.find schema).within .all)).append (d.windowClause c.window),
        d.sql ((c.count schema).within .all)]
  /-- After the identities were read, other statements may follow. -/
  | cascade {identity : Field} {rest : List Sql}
      (hidentity : (schema c.root).identityField = .ok identity) :
      Sends d schema c .cascade
        (d.sql ((c.project schema [⟨.main, identity.column⟩]).within .all) :: rest)

/-- A criteria that is given back untouched is fine for every loan. -/
theorem returns_self (loan : Loan ε α) (c : Criteria ι) : loan.Returns c c := by
  cases loan with
  | page => exact .inl rfl
  | load | exist | count | cascade => rfl

/-- What is done with the session alone leaves the criteria as it was. -/
theorem returned_of_onSession [DecidableEq ι] {dao : Dao σ ι ε} {loan : Loan ε α} {c : Criteria ι}
    {P : List Sql → Prop} {noted : Work (Session (Recorded (Act ι ε) σ)) α}
    {own : Work (Session σ) α}
    (hnoted : ∀ t, (loan.work dao.noted).exec (c, t) = (Database.onSession noted).exec (c, t))
    (hown : ∀ t, (loan.work dao).exec (c, t) = (Database.onSession own).exec (c, t))
    (h : Tracks View.alone (Sending P) noted own)
    (hsends : ∀ sqls, P sqls → loan.Sends dao.db.dialect dao.model.schema c sqls)
    (s : Session σ) :
    let run := (loan.work dao.noted).exec (c, Dao.unnoted s)
    (loan.work dao).exec (c, s) = (run.1, (run.2.1, run.2.2.erased)) ∧
      loan.Returns c run.2.1 ∧
      (loan.Sends dao.db.dialect dao.model.schema c (Act.sent run.2.2.world.log) ∨
        Act.sent run.2.2.world.log = [] ∧ run.1.isOk = false) := by
  intro run
  -- The record is empty at first, so what the work adds is all of it.
  obtain ⟨added, hsame, hlog, hsent⟩ := h (Dao.unnoted s)
  have hrun : run = ((noted.exec (Dao.unnoted s)).1, (c, (noted.exec (Dao.unnoted s)).2)) :=
    hnoted (Dao.unnoted s)
  have hsame : own.exec s = ((noted.exec (Dao.unnoted s)).1,
      (noted.exec (Dao.unnoted s)).2.erased) := hsame
  obtain rfl : (noted.exec (Dao.unnoted s)).2.world.log = added := hlog
  rw [hrun, hown, Dao.exec_onSession, hsame]
  exact ⟨rfl, loan.returns_self c, hsent.imp_left (hsends _)⟩

/-- A page sends its find, and then perhaps its count. -/
theorem returned_of_paged {d : Dialect} {schema : Schema ι} {c c' : Criteria ι}
    {acts : List (Act ι ε)} {result : Result (Page ε)}
    {F : List (Act ι ε) → Result (List ε) → Prop} {G : List (Act ι ε) → Result UInt64 → Prop}
    (hF : ∀ acts result, F acts result →
      Act.sent acts = [(d.sql ((c.find schema).within .all)).append (d.windowClause c.window)] ∨
        Act.sent acts = [] ∧ result.isOk = false)
    (hG : ∀ acts result, G acts result →
      Act.sent acts = [d.sql ((c.count schema).within .all)] ∨
        Act.sent acts = [] ∧ result.isOk = false)
    (h : Paged F G c acts result c') :
    Returns c c' (page : Loan ε (Page ε)) ∧
      (Sends d schema c (page : Loan ε (Page ε)) (Act.sent acts) ∨
        Act.sent acts = [] ∧ result.isOk = false) := by
  -- What is found was asked for, and the count comes after it.
  have hfound {acts : List (Act ι ε)} {items : List ε} (h : F acts (.ok items)) :
      Act.sent acts
        = [(d.sql ((c.find schema).within .all)).append (d.windowClause c.window)] :=
    (hF _ _ h).resolve_right fun hfailed => by cases hfailed.2
  have hcounted {found tally : List (Act ι ε)} {items : List ε} {total : Result UInt64}
      (h : F found (.ok items)) (h' : G tally total) :
      Sends d schema c (page : Loan ε (Page ε)) (Act.sent (found ++ tally)) := by
    rw [Act.sent_append, hfound h]
    rcases hG _ _ h' with hcount | ⟨hnone, -⟩
    · rw [hcount]
      exact .counted
    · rw [hnone]
      exact .found
  cases h with
  | unpaged => exact ⟨.inl rfl, .inr ⟨rfl, rfl⟩⟩
  | unfound find =>
      refine ⟨.inl rfl, (hF _ _ find).imp (fun hfind => ?_) fun hfailed => ⟨hfailed.1, rfl⟩⟩
      rw [hfind]
      exact .found
  | uncounted paged find done =>
      refine ⟨.inl rfl, .inl ?_⟩
      rw [hfound find]
      exact .found
  | @counted _ _ _ paging total paged find more count =>
      refine ⟨.inr ⟨total, ?_⟩, .inl (hcounted find count)⟩
      rw [paged]
      rfl
  | unsettled paged find more count => exact ⟨.inl rfl, .inl (hcounted find count)⟩

/-- A criteria that is lent to an operation comes back as it was, but for
the total of a page, whether the operation fails or not. Whatever limits
the criteria has, the operation reads with its own. -/
theorem run_returned [DecidableEq ι] (dao : Dao σ ι ε) (loan : Loan ε α) (c : Criteria ι)
    (s : Session σ) :
    let noted := (loan.work dao.noted).exec (c, Dao.unnoted s)
    (loan.work dao).exec (c, s) = (noted.1, (noted.2.1, noted.2.2.erased)) ∧
      loan.Returns c noted.2.1 ∧
      (loan.Sends dao.db.dialect dao.model.schema c (Act.sent noted.2.2.world.log) ∨
        Act.sent noted.2.2.world.log = [] ∧ noted.1.isOk = false) := by
  -- All but a page run on the session alone, with the criteria beside it.
  cases loan with
  | load =>
      refine returned_of_onSession (dao.noted.loadByCriteria_exec c) (dao.loadByCriteria_exec c)
        (Tracks.sending_loading dao c) ?_ s
      rintro _ rfl
      exact .load
  | exist =>
      refine returned_of_onSession (dao.noted.existsByCriteria_exec c)
        (dao.existsByCriteria_exec c) (Tracks.sending_existing dao c) ?_ s
      rintro _ rfl
      exact .exist
  | count =>
      refine returned_of_onSession (dao.noted.countByCriteria_exec c) (dao.countByCriteria_exec c)
        (Tracks.sending_counting dao c) ?_ s
      rintro _ rfl
      exact .count
  | page =>
      obtain ⟨hsame, hpaged⟩ := dao.paged c (Tracks.sending_findByCriteria dao c)
        (Tracks.sending_counting dao c) s
      exact ⟨hsame, returned_of_paged (fun _ _ h => h) (fun _ _ h => h) hpaged⟩
  | cascade =>
      refine returned_of_onSession (dao.noted.deleteCascadeByCriteria_cascading c)
        (dao.deleteCascadeByCriteria_cascading c) (Tracks.sending_cascading dao c) ?_ s
      rintro _ ⟨identity, rest, hidentity, rfl⟩
      exact .cascade hidentity

end Loan

end DataAccess
