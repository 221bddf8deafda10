import DataAccess.Dao.Delete
import DataAccess.Proofs.Dao.Closure

/-!
# `DataAccess.Proofs.Dao.Relational`: sources that keep rows in tables

What a source has to be for a deletion to mean anything. `Relational`
says of a source that its states show a store, that rows with one of
several numbers in a column are found and deleted in it, and that units
of work leave it alone; nothing is said about any other statement, or
about statements that fail.

The stores after each deletion are kept in a `History`, so that what is
between two deletions can be spoken of. `History.source` is a source
that is nothing else (`History.relational`).
-/

set_option autoImplicit false

namespace DataAccess

variable {σ τ ι ε α : Type}

/-- A store, and the stores after each deletion so far, the oldest
first. -/
structure History where
  now : Store
  steps : List Store

/-- One more deletion: of the rows of a table whose number in a column is
one of the given ones. -/
def History.without (h : History) (table column : String) (numbers : List Int64) : History :=
  ⟨h.now.without table column numbers, h.steps ++ [h.now.without table column numbers]⟩

/-- The rows of a table whose number in a column is one of the given
ones. -/
def Selection.among (table column : String) (numbers : List Int64) : Selection where
  table := table
  joins := []
  conditions := [⟨.and, .filter ⟨.main, column⟩ .membership, numbers.map .int64⟩]
  groupings := []
  orders := []
  window := .all

/-- The number in the first column of a row. -/
def Row.number? (row : Row) : Option Int64 :=
  row.first?.bind Value.number?

/-- The source keeps the rows of the entity types in tables, and finds and
deletes them by the numbers in a column. -/
structure Relational (schema : Schema ι) (source : DataSource σ) where
  /-- The store in a state, and how it came about. -/
  view : σ → History
  acquire : ∀ {w c w'}, source.acquire.exec w = (.ok c, w') → view w' = view w
  begin : ∀ {c level w w'}, (source.begin c level).exec w = (.ok (), w') → view w' = view w
  commit : ∀ {c w w'}, (source.commit c).exec w = (.ok (), w') → view w' = view w
  release : ∀ {c w w'}, (source.release c).exec w = (.ok (), w') → view w' = view w
  /-- The identities of the rows are found, in any order. -/
  select : ∀ {c dialect k column numbers identity rows w w'},
    (schema k).identityField = .ok identity →
    (source.fetch c ⟨dialect, .project (.among (schema k).table column numbers)
        [.column ⟨.main, identity.column⟩]⟩).exec w = (.ok rows, w') →
    view w' = view w ∧ (rows.map Row.number?).Perm
      ((((view w).now (schema k).table).filter (·.Among column numbers)).map
        fun t => (t identity.column).number?)
  /-- The rows are deleted. -/
  delete : ∀ {c dialect k column numbers written w w'},
    (source.execute c ⟨dialect, .delete (.among (schema k).table column numbers)⟩).exec w
      = (.ok written, w') →
    view w' = (view w).without (schema k).table column numbers

namespace Relational

/-- In states that show `h`, a statement reads the identities `ids` of rows
of the type `k`, and changes nothing. -/
structure Reads {schema : Schema ι} {source : DataSource σ} (r : Relational schema source)
    (h : History) (statement : Statement) (k : ι) (ids : List Int64) : Prop where
  read : ∀ {c dialect rows w w'}, r.view w = h →
    (source.fetch c ⟨dialect, statement⟩).exec w = (.ok rows, w') →
    r.view w' = h ∧ rows.map Row.number? = ids.map some
  found : ∀ i ∈ ids, ∃ t ∈ h.now (schema k).table, schema.identityOf? k t = some i

/-! ### Units of work and statements -/

/-- Two states of the source show the same. -/
def Still {schema : Schema ι} {source : DataSource σ} (r : Relational schema source)
    (w w' : σ) : Prop :=
  r.view w' = r.view w

/-- Two states of a session show the same. -/
def Same {schema : Schema ι} {source : DataSource σ} (r : Relational schema source)
    (s s' : Session σ) : Prop :=
  r.Still s.world s'.world

section Session
variable {schema : Schema ι} {db : Database σ} (r : Relational schema db.source)

/-- Nothing has changed where nothing was done. -/
theorem still_refl (w : σ) : r.Still w w := rfl

/-- What did not change twice did not change. -/
theorem still_trans (w w' w'' : σ) (h : r.Still w w') (h' : r.Still w' w'') : r.Still w w'' :=
  h'.trans h

/-- So it is with the rows that a session sees. -/
theorem same_refl (s : Session σ) : r.Same s s := rfl

/-- They are the same after two steps that keep them. -/
theorem same_trans (s t u : Session σ) (hst : r.Same s t) (htu : r.Same t u) : r.Same s u :=
  r.still_trans _ _ _ hst htu

/-- Work on the units does not touch the rows. -/
theorem onUnits_same (w : Work Units α) : Work.Leads r.Same (Session.onUnits w) := by
  intro s a s' h
  simp only [Session.onUnits, Work.exec_within, Prod.mk.injEq] at h
  rw [← h.2]
  rfl

/-- Work on the source that keeps the rows keeps them for the session. -/
theorem onWorld_same {w : Work σ α} (h : Work.Leads r.Still w) :
    Work.Leads r.Same (Session.onWorld w) :=
  Work.leads_within h fun _ _ hview => hview

/-- Getting a connection keeps the rows. -/
theorem connect_still (level : Option Isolation) : Work.Leads r.Still (db.connect level) := by
  refine Work.leads_bind r.still_trans (Work.leads_mapError _ fun _ _ _ h => r.acquire h)
    fun c => ?_
  cases level with
  | none => exact Work.leads_pure r.still_refl c
  | some level =>
      refine Work.leads_bind r.still_trans ?_ fun _ => Work.leads_pure r.still_refl c
      -- A transaction that does not begin fails, whether the connection goes back or not.
      intro w a w' h
      rw [Database.beginOn, Work.exec_bind, Work.exec_attempt] at h
      rcases hbegin : (db.source.begin c level).exec w with ⟨e | u, t⟩ <;> rw [hbegin] at h
      · obtain ⟨_, t', -, hfail⟩ := Work.exec_bind_eq_ok.mp h
        cases hfail
      · obtain rfl : t = w' := congrArg Prod.snd h
        exact r.begin hbegin

/-- Opening a unit keeps the rows. -/
theorem openUnit_same (level : Option Isolation) : Work.Leads r.Same (db.openUnit level) := by
  refine Work.leads_get_bind fun s => ?_
  split
  · exact r.onUnits_same _
  · refine Work.leads_bind r.same_trans (r.onWorld_same (r.connect_still level)) fun c => ?_
    exact r.onUnits_same _

/-- A transaction that is kept changes nothing more. -/
theorem closeTransaction_same : Work.Leads r.Same (db.closeTransaction true) := by
  refine Work.leads_bind r.same_trans (r.onUnits_same _) fun left => ?_
  match left with
  | none => exact Work.leads_pure r.same_refl ()
  | some (c, transactional) =>
      refine r.onWorld_same (Work.leads_concluding r.still_trans ?_ ?_)
      -- A commit keeps what is there, and so does the release.
      · unfold Database.finishOf
        split
        · exact Work.leads_mapError _ fun _ _ _ h => r.commit h
        · exact Work.leads_pure r.still_refl ()
      · exact fun _ => Work.leads_mapError _ fun _ _ _ h => r.release h

/-- What is done in a transaction that succeeds is what its work does. -/
theorem transaction_ok {w : Work (Session σ) α} {s s' : Session σ} {a : α}
    (h : (db.transaction w).exec s = (.ok a, s')) :
    ∃ t t', r.Same s t ∧ w.exec t = (.ok a, t') ∧ r.Same t' s' := by
  obtain ⟨_, t, hopen, hrest⟩ := Work.exec_bind_eq_ok.mp h
  obtain ⟨t', hrun, hclose⟩ := Work.exec_concluding_eq_ok hrest
  exact ⟨t, t', r.openUnit_same _ s () t hopen, hrun, r.closeTransaction_same t' () s' hclose⟩

omit r in
/-- A call that succeeds is one of the source, on some connection. -/
theorem onConnection_ok {f : ConnectionId → Work σ α} {s s' : Session σ} {a : α}
    (h : (Database.connection >>= fun c => Session.onWorld (f c)).exec s = (.ok a, s')) :
    ∃ c, (f c).exec s.world = (.ok a, s'.world) := by
  obtain ⟨c, t, hconnection, hrun⟩ := Work.exec_bind_eq_ok.mp h
  -- Looking for the connection changes nothing.
  obtain rfl : t = s := by
    rw [Database.connection, Work.exec_get_bind] at hconnection
    split at hconnection <;> cases hconnection
    rfl
  refine ⟨c, ?_⟩
  simp only [Session.onWorld, Work.exec_within, Prod.mk.injEq] at hrun
  rw [← hrun.2]
  exact Prod.ext hrun.1 rfl

/-- Rows that a statement deletes by the numbers in a column. -/
theorem execute_ok {k : ι} {column : String} {numbers : List Int64} {written : Written}
    {s s' : Session σ}
    (h : (db.execute (.delete (.among (schema k).table column numbers))).exec s
      = (.ok written, s')) :
    r.view s'.world = (r.view s.world).without (schema k).table column numbers := by
  obtain ⟨c, hrun⟩ := onConnection_ok h
  exact r.delete hrun

end Session

/-- The identities that are read are the numbers in the first columns. -/
theorem number?_of_mapM {rows : List Row} {ids : List Int64}
    (h : (rows.mapM fun row => do (← row.at? 0).as Int64 : Result (List Int64)) = .ok ids) :
    rows.map Row.number? = ids.map some := by
  refine (Result.map_of_mapM (fun row i hi => ?_) h).symm
  obtain ⟨v, hv, hnumber⟩ := Result.bind_eq_ok.mp hi
  -- What is read is the value in the first column.
  have hfirst : row.first? = some v := by
    rw [Row.at?] at hv
    rw [Row.first?, List.head?_eq_getElem?]
    cases hvalues : row.values[0]? with
    | none => simp [hvalues, Row.unknown] at hv
    | some u => simpa [hvalues] using hv
  rw [Row.number?, hfirst, Option.bind_some, Value.number?, hnumber]
  rfl

/-- Identities that are read are those of the rows of one statement. -/
theorem fetchIds_ok {dao : Dao σ ι ε} {select : Statement} {ids : List Int64}
    {s s' : Session σ} (h : (dao.fetchIds select).exec s = (.ok ids, s')) :
    ∃ c rows, (dao.db.source.fetch c ⟨dao.db.dialect, select⟩).exec s.world = (.ok rows, s'.world) ∧
      rows.map Row.number? = ids.map some := by
  obtain ⟨rows, t, hfetch, hrest⟩ := Work.exec_bind_eq_ok.mp h
  obtain ⟨c, hrun⟩ := onConnection_ok hfetch
  simp only [Work.exec_ofResult, Prod.mk.injEq] at hrest
  rw [hrest.2] at hrun
  exact ⟨c, rows, hrun, number?_of_mapM hrest.1⟩

/-- The identities of the rows with one of several numbers in a column. -/
theorem fetchIds_among {dao : Dao σ ι ε} (r : Relational dao.model.schema dao.db.source)
    {k : ι} {column : String} {numbers ids : List Int64} {identity : Field} {s s' : Session σ}
    (hidentity : (dao.model.schema k).identityField = .ok identity)
    (h : (dao.fetchIds (.project (.among (dao.model.schema k).table column numbers)
      [.column ⟨.main, identity.column⟩])).exec s = (.ok ids, s')) :
    r.Same s s' ∧ ∀ i, i ∈ ids ↔ ∃ t ∈ (r.view s.world).now (dao.model.schema k).table,
      t.Among column numbers ∧ dao.model.schema.identityOf? k t = some i := by
  obtain ⟨c, rows, hrun, hids⟩ := fetchIds_ok h
  obtain ⟨hsame, hrows⟩ := r.select hidentity hrun
  refine ⟨hsame, fun i => ?_⟩
  rw [hids] at hrows
  -- The order in which the rows come does not matter.
  have hmem := hrows.mem_iff (a := some i)
  simp only [List.mem_map, Option.some.injEq, exists_eq_right, List.mem_filter,
    decide_eq_true_eq, and_assoc] at hmem
  rw [hmem]
  simp only [Schema.identityOf?, hidentity, Except.toOption, Option.bind_some]

end Relational

/-! ### A source that is a store -/

/-- A row with those that it is joined with, by their aliases: in each
joined table, the row with the identity that the base points at. -/
def Store.joined (st : Store) (joins : List JoinedTable) (t : TableRow) :
    List (Alias × TableRow) :=
  joins.foldl
    (fun rows j =>
      let pointer := (rows.lookup j.baseAlias).bind fun base => (base j.baseColumn).number?
      let found := (st j.table).find? fun row =>
        pointer.isSome && (row j.idColumn).number? == pointer
      rows ++ [(j.tableAlias, found.getD fun _ => .null)])
    [(.main, t)]

/-- A condition on joined rows: a column has one of several numbers. No
other condition is known. -/
def Condition.holds (c : Condition) (rows : List (Alias × TableRow)) : Bool :=
  match c.clause with
  | .filter ref .membership =>
    (rows.lookup ref.table).any (·.Among ref.column (c.values.filterMap Value.number?))
  | _ => false

/-- A row is one of those that a selection means. -/
def Store.means (st : Store) (selection : Selection) (t : TableRow) : Bool :=
  selection.conditions.all (·.holds (st.joined selection.joins t))

namespace History

/-- A statement that is not known. -/
def unknown : Error := .database "unknown statement"

/-- The values of a column. -/
def read (h : History) : Statement → Result (List Row)
  | .project selection [.column ref] =>
    .ok (((h.now selection.table).filter (h.now.means selection)).map fun t =>
      .of [ref.text] [t ref.column])
  | _ => .error unknown

/-- Rows are deleted. -/
def write : Statement → Work History Written
  | .delete selection => do
    let h ← get
    let kept : Store := fun name =>
      if name = selection.table then (h.now name).filter fun t => !h.now.means selection t
      else h.now name
    set (⟨kept, h.steps ++ [kept]⟩ : History)
    return ⟨UInt64.ofNat ((h.now selection.table).countP (h.now.means selection)), none⟩
  | _ => Work.fail unknown

/-- The source that is a store. It has one connection, and its
transactions are kept. -/
def source : DataSource History where
  backend := .sqlite
  acquire := return 0
  begin _ _ := return
  commit _ := return
  rollback _ := return
  release _ := return
  execute _ command := write command.statement
  fetch _ command := do Work.ofResult ((← get).read command.statement)
  close h := h

/-- The rows with some numbers in a column are those that the condition
holds for. -/
theorem means_among (st : Store) (table column : String) (numbers : List Int64) (t : TableRow) :
    st.means (.among table column numbers) t = decide (t.Among column numbers) := by
  have hnumbers : (numbers.map Value.int64).filterMap Value.number? = numbers := by
    have hnumber : Value.number? ∘ Value.int64 = some := rfl
    rw [List.filterMap_map, hnumber, List.filterMap_some]
  simp [Store.means, Selection.among, Store.joined, Condition.holds, hnumbers]

/-- It finds and deletes rows as it should. -/
def relational (schema : Schema ι) : Relational schema source where
  view h := h
  acquire h := (congrArg Prod.snd h).symm
  begin h := (congrArg Prod.snd h).symm
  commit h := (congrArg Prod.snd h).symm
  release h := (congrArg Prod.snd h).symm
  select {c dialect k column numbers identity rows w w'} hidentity h := by
    obtain ⟨hrows, rfl⟩ := Prod.mk.inj h
    obtain rfl := Except.ok.inj hrows
    refine ⟨rfl, ?_⟩
    rw [List.map_map, List.filter_congr fun t _ => means_among ..]
    exact List.Perm.refl _
  delete {c dialect k column numbers written w w'} h := by
    obtain ⟨-, rfl⟩ := Prod.mk.inj h
    simp only [means_among, ← decide_not]
    rfl

end History

end DataAccess
