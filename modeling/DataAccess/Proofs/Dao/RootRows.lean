import DataAccess.Proofs.Dao.Counting
import DataAccess.Proofs.Dao.Protocol
import DataAccess.Proofs.Schema.Validity

/-!
# `DataAccess.Proofs.Dao.RootRows`: the rows that deletes are about

A plain delete says in its statement which rows are meant; a cascading one
reads the identities of the rows first, since the rows that depend on them
have to go before them. Here the two are compared over a source that
knows, in every state, which rows of a table meet conditions through
joins (`Addressing`).

`deleteCascadeByCriteria_addresses`: without groupings both are about the
same rows, whatever orders, limit and page the criteria has. The plain
delete drops all parts of a criteria but its conditions and joins, the
cascading one only puts limit and page aside. So with groupings it reads
one identity of each group, and the other rows stay
(`deleteCascadeByCriteria_grouped`).
-/

set_option autoImplicit false

namespace DataAccess

variable {σ ι ε ρ κ : Type}

/-! ### Sources that know the rows of a selection -/

/-- The store without the rows of a table that have `P`. -/
noncomputable def Store.dropping (st : Store) (table : String) (P : TableRow → Prop) : Store :=
  open Classical in
  fun name => if name = table then (st name).filter fun t => ¬ P t else st name

/-- The rows of a type have identities, no two of them the same. -/
def Store.Keyed (st : Store) (schema : Schema ι) (k : ι) : Prop :=
  ∃ ids : List Int64, ids.Nodup ∧ (st (schema k).table).map (schema.identityOf? k) = ids.map some

/-- What a query shows of the rows it matches: all of them, or one of each
group. -/
structure Represents [DecidableEq κ] (key : ρ → ColumnRef → κ) (groupings : List ColumnRef)
    (rows shown : List ρ) : Prop where
  subset : shown ⊆ rows
  all : groupings = [] → shown.Perm rows
  groups : groupings ≠ [] →
    (groupValues key groupings shown).Perm (groupValues key groupings rows).dedup

/-- The source keeps tables, of which it reads and deletes the rows that
meet the conditions of a selection through its joins. -/
structure Addressing (source : DataSource σ) (ρ κ : Type) [DecidableEq κ] where
  /-- The tables in a state. -/
  view : σ → Store
  /-- The rows of a table, with those joined to them, that meet
  conditions. -/
  matched : Store → String → List JoinedTable → List Condition → List ρ
  /-- The row of the table itself. -/
  root : ρ → TableRow
  /-- What a column of a row holds, for grouping. -/
  key : ρ → ColumnRef → κ
  root_mem : ∀ {st table joins conditions row}, row ∈ matched st table joins conditions →
    root row ∈ st table
  /-- A column of the table is read, in any order. -/
  project : ∀ c dialect selection column w, selection.window = .all → ∃ rows w' shown,
    (source.fetch c ⟨dialect, .project selection [.column ⟨.main, column⟩]⟩).exec w
      = (.ok rows, w') ∧ view w' = view w ∧
    rows.map Row.first? = shown.map (fun row => some (root row column)) ∧
    Represents key selection.groupings
      (matched (view w) selection.table selection.joins selection.conditions) shown
  /-- The rows are deleted from the table. -/
  delete : ∀ c dialect selection w, selection.groupings = [] → selection.orders = [] →
    selection.window = .all → ∃ written w',
      (source.execute c ⟨dialect, .delete selection⟩).exec w = (.ok written, w') ∧
      view w' = (view w).dropping selection.table fun t =>
        ∃ row ∈ matched (view w) selection.table selection.joins selection.conditions,
          root row = t

/-! ### The parts of a cascading delete -/

namespace Dao

/-- Reads the identities that a cascading delete begins with. -/
def rootIds (dao : Dao σ ι ε) (c : Criteria ι) : Work (Session σ) (List Int64) := do
  let select ← Work.ofResult (dao.selectIds c.suspendLimits)
  dao.fetchIds select

/-- Deletes the entities of a criteria, in one statement. -/
def deleteRows (dao : Dao σ ι ε) (c : Criteria ι) : Work (Session σ) UInt64 := do
  let written ← dao.db.execute (c.rowSelection.delete dao.model.schema)
  return written.rows

variable {dao : Dao σ ι ε} {c : Criteria ι}

/-- The statement that reads the identities, without limits. -/
theorem selectIds_suspendLimits {identity : Field}
    (hidentity : (dao.model.schema c.root).identityField = .ok identity) :
    dao.selectIds c.suspendLimits = .ok (.project (c.suspendLimits.selection dao.model.schema)
      [.column ⟨.main, identity.column⟩]) :=
  Result.bind_eq_ok.mpr ⟨identity, hidentity, rfl⟩

/-- A cascading delete reads identities and deletes what has them. It
leaves the criteria as it was. -/
theorem deleteCascadeByCriteria_exec [DecidableEq ι] {identity : Field}
    (hidentity : (dao.model.schema c.root).identityField = .ok identity) (s : Session σ) :
    dao.deleteCascadeByCriteria.exec (c, s)
      = (((dao.deleting c (dao.rootIds c >>= dao.deleteRoots)).exec s).1, c,
          ((dao.deleting c (dao.rootIds c >>= dao.deleteRoots)).exec s).2) := by
  have hselect := selectIds_suspendLimits hidentity
  have hrows : dao.rootIds c >>= dao.deleteRoots
      = dao.deleteCascadeRows (.project (c.suspendLimits.selection dao.model.schema)
          [.column ⟨.main, identity.column⟩]) := by
    rw [rootIds, hselect]
    rfl
  have hsubject : (Database.onSubject (Criteria.limitedTo none dao.selectIds)).exec (c, s)
      = (.ok (dao.selectIds c.suspendLimits), (c, s)) := exec_limitedTo c s none _
  rw [deleteCascadeByCriteria, Work.exec_bind_ok hsubject, hselect, hrows]
  rfl

/-! ### Reading and deleting the rows -/

/-- Rows that begin with numbers are read as identities. -/
theorem readIds_ok {rows : List Row} {ids : List Int64}
    (h : rows.map Row.number? = ids.map some) : readIds rows = .ok ids := by
  induction rows generalizing ids with
  | nil =>
      obtain rfl : ids = [] := List.map_eq_nil_iff.mp h.symm
      rfl
  | cons row rows ih =>
      obtain ⟨i, rest, rfl, hi, hrest⟩ := List.map_eq_cons_iff.mp h.symm
      -- The identity is in the first cell of the row.
      obtain ⟨v, hv, hnumber⟩ := Option.bind_eq_some_iff.mp hi.symm
      have hvalue : row.at? 0 = .ok v := by
        rw [Row.first?, List.head?_eq_getElem?] at hv
        rw [Row.at?, hv]
      have hid : v.as Int64 = .ok i := by
        rcases has : v.as Int64 with e | j <;> rw [Value.number?, has] at hnumber
        · cases hnumber
        · exact congrArg Except.ok (Option.some.inj hnumber)
      rw [readIds, List.mapM_cons, hvalue]
      refine Result.bind_eq_ok.mpr ⟨i, hid, Result.bind_eq_ok.mpr ⟨rest, ih hrest.symm, rfl⟩⟩

/-- Identities are read inside an open unit, if every row that comes tells
one. -/
theorem fetchIds_read {t : Session σ} {connection : ConnectionId} {select : Statement}
    {rows : List Row} {w : σ} {ids : List Int64} (hopen : t.units.connection = some connection)
    (hfetch : (dao.db.source.fetch connection ⟨dao.db.dialect, select⟩).exec t.world
      = (.ok rows, w))
    (hids : rows.map Row.number? = ids.map some) :
    (dao.fetchIds select).exec t = (.ok ids, ⟨t.units, w⟩) := by
  have hrun : (dao.db.fetch select).exec t = (.ok rows, ⟨t.units, w⟩) := by
    rw [Database.fetch, Work.exec_bind_ok (Database.connection_exec hopen), Session.onWorld,
      Work.exec_within, hfetch]
  rw [fetchIds, Work.exec_bind_ok hrun, Work.exec_ofResult]
  exact congrArg (·, _) (readIds_ok hids)

end Dao

/-- The rows that the conditions and joins of a criteria mean. -/
def Addressing.meant [DecidableEq κ] {source : DataSource σ} (store : Addressing source ρ κ)
    (schema : Schema ι) (c : Criteria ι) (st : Store) : List ρ :=
  store.matched st (schema c.root).table (c.joinedTables schema) c.conditions

/-- What is found for every one of a list, in a list. -/
theorem exists_map_some {α β : Type} {f : α → Option β} {as : List α}
    (h : ∀ a ∈ as, ∃ b, f a = some b) : ∃ bs : List β, bs.map some = as.map f := by
  induction as with
  | nil => exact ⟨[], rfl⟩
  | cons a as ih =>
      obtain ⟨b, hb⟩ := h a (by simp)
      obtain ⟨bs, hbs⟩ := ih fun a ha => h a (by simp [ha])
      exact ⟨b :: bs, by rw [List.map_cons, List.map_cons, hb, hbs]⟩

/-- The identity of a row is the number in the column of the identity
field. -/
theorem Schema.identityOf?_eq {schema : Schema ι} {k : ι} {identity : Field}
    (hidentity : (schema k).identityField = .ok identity) (t : TableRow) :
    schema.identityOf? k t = (t identity.column).number? := by
  rw [identityOf?, hidentity]
  rfl

namespace Store.Keyed

variable {schema : Schema ι} {k : ι} {st : Store} {t t' : TableRow}

/-- A row of a keyed table has an identity. -/
theorem exists_identity (h : st.Keyed schema k) (ht : t ∈ st (schema k).table) :
    ∃ i, schema.identityOf? k t = some i := by
  obtain ⟨ids, -, hids⟩ := h
  have hmem := hids ▸ List.mem_map_of_mem (f := schema.identityOf? k) ht
  obtain ⟨i, -, hi⟩ := List.mem_map.mp hmem
  exact ⟨i, hi.symm⟩

/-- A row is known by its identity. -/
theorem eq_of_identity (h : st.Keyed schema k) (ht : t ∈ st (schema k).table)
    (ht' : t' ∈ st (schema k).table) (hid : schema.identityOf? k t = schema.identityOf? k t') :
    t = t' := by
  obtain ⟨ids, hnodup, hids⟩ := h
  have hdistinct : ((st (schema k).table).map (schema.identityOf? k)).Nodup := by
    rw [hids]
    exact hnodup.map fun _ _ => Option.some.inj
  exact List.inj_on_of_nodup_map hdistinct ht ht' hid

/-- To drop rows is to delete the rows with their identities. -/
theorem dropping_eq_without (h : st.Keyed schema k) {identity : Field}
    (hidentity : (schema k).identityField = .ok identity) {P : TableRow → Prop}
    (hP : ∀ t, P t → t ∈ st (schema k).table) {ids : List Int64}
    (hids : ∀ i, i ∈ ids ↔ ∃ t, P t ∧ schema.identityOf? k t = some i) :
    st.dropping (schema k).table P = st.without (schema k).table identity.column ids := by
  have hid := Schema.identityOf?_eq hidentity
  funext name
  unfold Store.dropping Store.without
  split
  · rename_i hname
    subst hname
    refine List.filter_congr fun t ht => ?_
    rw [decide_eq_decide, not_iff_not]
    constructor
    · intro hPt
      obtain ⟨i, hi⟩ := h.exists_identity ht
      exact ⟨i, (hids i).mpr ⟨t, hPt, hi⟩, by rw [← hid, hi]⟩
    · rintro ⟨i, hi, hnumber⟩
      -- The row that has this identity and is dropped is `t` itself.
      obtain ⟨t', hPt', hid'⟩ := (hids i).mp hi
      obtain rfl := h.eq_of_identity (hP t' hPt') ht (by rw [hid', hid, hnumber])
      exact hPt'
  · rfl

end Store.Keyed

namespace Dao

variable {dao : Dao σ ι ε} {c : Criteria ι}

section Addressing
variable [DecidableEq κ] (store : Addressing dao.db.source ρ κ) {t : Session σ}

/-- The identities that a cascading delete begins with are those of the
rows that are shown. -/
theorem rootIds_read (hopen : t.units.connection.isSome = true) {identity : Field}
    (hidentity : (dao.model.schema c.root).identityField = .ok identity)
    (hkeyed : (store.view t.world).Keyed dao.model.schema c.root) :
    ∃ ids w shown, (dao.rootIds c).exec t = (.ok ids, ⟨t.units, w⟩) ∧
      store.view w = store.view t.world ∧
      Represents store.key c.groupings
        (store.meant dao.model.schema c (store.view t.world)) shown ∧
      ids.map some
        = shown.map fun row => dao.model.schema.identityOf? c.root (store.root row) := by
  obtain ⟨connection, hconnection⟩ := Option.isSome_iff_exists.mp hopen
  obtain ⟨rows, w, shown, hfetch, hview, hfirst, hshown⟩ :=
    store.project connection dao.db.dialect (c.suspendLimits.selection dao.model.schema)
      identity.column t.world c.window_suspendLimits
  have hnumbers : rows.map Row.number?
      = shown.map fun row => dao.model.schema.identityOf? c.root (store.root row) := by
    have hmap := congrArg (List.map (Option.bind · Value.number?)) hfirst
    rw [List.map_map, List.map_map] at hmap
    simp only [Schema.identityOf?_eq hidentity]
    exact hmap
  -- Every row that is shown is one of the table, and has an identity.
  obtain ⟨ids, hids⟩ := exists_map_some
    (f := fun row => dao.model.schema.identityOf? c.root (store.root row))
    fun row hrow => hkeyed.exists_identity (store.root_mem (hshown.subset hrow))
  refine ⟨ids, w, shown, ?_, hview, hshown, hids⟩
  rw [rootIds, selectIds_suspendLimits hidentity]
  exact fetchIds_read hconnection hfetch (hnumbers.trans hids.symm)

/-- The plain delete deletes the rows that the criteria means. -/
theorem deleteRows_deletes (hopen : t.units.connection.isSome = true) :
    ∃ rows w, (dao.deleteRows c).exec t = (.ok rows, ⟨t.units, w⟩) ∧
      store.view w = (store.view t.world).dropping (dao.model.schema c.root).table fun row =>
        ∃ meant ∈ store.meant dao.model.schema c (store.view t.world), store.root meant = row := by
  obtain ⟨connection, hconnection⟩ := Option.isSome_iff_exists.mp hopen
  obtain ⟨written, w, hexecute, hview⟩ := store.delete connection dao.db.dialect
    (c.rowSelection.selection dao.model.schema) t.world rfl rfl rfl
  have hrun : (dao.db.execute (c.rowSelection.delete dao.model.schema)).exec t
      = (.ok written, ⟨t.units, w⟩) := by
    rw [Database.execute, Work.exec_bind_ok (Database.connection_exec hconnection),
      Session.onWorld, Work.exec_within, Criteria.delete, hexecute]
  refine ⟨written.rows, w, ?_, hview⟩
  rw [deleteRows, Work.exec_bind_ok hrun]
  rfl

/-- A cascading delete reads identities and then deletes what has them,
and a plain one deletes rows at once, both between the same hooks and in
the same unit. Whenever they come to that, the identities are those of the
rows that the query shows: without groupings those of the rows that the
plain delete deletes, whatever orders, limit and page there are, so that
to delete the rows with these identities is to delete the same rows; with
groupings those of one row of each group. -/
theorem deleteCascadeByCriteria_addresses [DecidableEq ι]
    (hvalid : dao.declaration.validate = .ok ()) (hroot : c.root = dao.kind) :
    (∀ s, dao.deleteCascadeByCriteria.exec (c, s)
      = (((dao.deleting c (dao.rootIds c >>= dao.deleteRoots)).exec s).1, c,
          ((dao.deleting c (dao.rootIds c >>= dao.deleteRoots)).exec s).2)) ∧
    dao.deleteByCriteria c = dao.deleting c (dao.deleteRows c) ∧
    ∀ t : Session σ, t.units.connection.isSome = true →
      (store.view t.world).Keyed dao.model.schema dao.kind →
      let meant := store.meant dao.model.schema c (store.view t.world)
      let identityOf (row : ρ) := dao.model.schema.identityOf? dao.kind (store.root row)
      ∃ ids shown rows read deleted, (dao.rootIds c).exec t = (.ok ids, ⟨t.units, read⟩) ∧
        (dao.deleteRows c).exec t = (.ok rows, ⟨t.units, deleted⟩) ∧
        store.view read = store.view t.world ∧
        store.view deleted = (store.view t.world).dropping dao.declaration.table
          (fun row => ∃ m ∈ meant, store.root m = row) ∧
        Represents store.key c.groupings meant shown ∧ ids.map some = shown.map identityOf ∧
        (c.groupings = [] → (∀ i, i ∈ ids ↔ ∃ m ∈ meant, identityOf m = some i) ∧
          ∀ identity, dao.declaration.identityField = .ok identity →
            store.view deleted
              = (store.view t.world).without dao.declaration.table identity.column ids) := by
  obtain ⟨identity, hidentity, -⟩ := Result.bind_eq_ok.mp hvalid
  have hfield : (dao.model.schema c.root).identityField = .ok identity := by rwa [hroot]
  refine ⟨deleteCascadeByCriteria_exec hfield, rfl, fun t hopen hkeyed => ?_⟩
  rw [← hroot] at hkeyed
  obtain ⟨ids, read, shown, hread, hsame, hshown, hids⟩ := rootIds_read store hopen hfield hkeyed
  obtain ⟨rows, deleted, hdelete, hview⟩ := deleteRows_deletes (c := c) store hopen
  rw [hroot] at hids hkeyed hview
  refine ⟨ids, shown, rows, read, deleted, hread, hdelete, hsame, hview, hshown, hids,
    fun hgroup => ?_⟩
  -- Without groupings all rows that are meant are shown.
  have hmem : ∀ i, i ∈ ids ↔ ∃ m ∈ store.meant dao.model.schema c (store.view t.world),
      dao.model.schema.identityOf? dao.kind (store.root m) = some i := by
    intro i
    rw [← List.mem_map_of_injective (f := some) fun _ _ => Option.some.inj, hids, List.mem_map]
    simp only [(hshown.all hgroup).mem_iff]
  refine ⟨hmem, fun identity' hidentity' => hview.trans ?_⟩
  -- Each row that is meant is one of the table, and is known by its identity.
  refine hkeyed.dropping_eq_without hidentity' ?_ fun i => (hmem i).trans ?_
  · rintro _ ⟨m, hm, rfl⟩
    rw [← hroot]
    exact store.root_mem hm
  · constructor
    · rintro ⟨m, hm, hi⟩
      exact ⟨store.root m, ⟨m, hm, rfl⟩, hi⟩
    · rintro ⟨_, ⟨m, hm, rfl⟩, hi⟩
      exact ⟨m, hm, hi⟩

end Addressing

end Dao

/-! ### A store of which rows are read and deleted -/

namespace Store

/-- The row of the table itself, among those joined to it. -/
def rootRow (row : List (Alias × TableRow)) : TableRow :=
  (row.lookup .main).getD fun _ => .null

/-- What a query for a column brings. -/
def column (st : Store) : Statement → Result (List Row)
  | .project s [.column ref] =>
    .ok ((s.window.rows (firstRows cellNumber s.groupings
      (st.matched s.table s.joins s.conditions))).map fun row => .of [ref.text] [cell row ref])
  | _ => .error History.unknown

/-- A source that keeps a store, of which it reads columns and deletes
rows. It has one connection, and its transactions are kept. -/
def keeper : DataSource Store where
  backend := .sqlite
  acquire := return 0
  begin _ _ := return
  commit _ := return
  rollback _ := return
  release _ := return
  execute _ command :=
    match command.statement with
    | .delete s => do
      let st ← get
      set (fun name =>
        if name = s.table then (st name).filter fun t => !st.means s t else st name : Store)
      return ⟨UInt64.ofNat ((st s.table).countP (st.means s)), none⟩
    | _ => Work.fail History.unknown
  fetch _ command := do Work.ofResult ((← get).column command.statement)
  close st := st

/-- A row that others are joined to is still there. -/
theorem rootRow_joined (st : Store) (joins : List JoinedTable) (t : TableRow) :
    rootRow (st.joined joins t) = t := by
  have hkept : (st.joined joins t).lookup .main = some t := by
    unfold joined
    have hstart : [(Alias.main, t)].lookup .main = some t := rfl
    generalize [(Alias.main, t)] = rows at hstart
    induction joins generalizing rows with
    | nil => exact hstart
    | cons j joins ih =>
        apply ih
        rw [List.lookup_append, hstart]
        rfl
  rw [rootRow, hkept, Option.getD_some]

/-- A column of the main table is read in the root row. -/
theorem cell_main (row : List (Alias × TableRow)) (column : String) :
    cell row ⟨.main, column⟩ = rootRow row column := by
  rw [cell, rootRow]
  cases row.lookup .main <;> rfl

/-- The first rows of the groups are one of each group. -/
theorem represents_firstRows [DecidableEq κ] (key : ρ → ColumnRef → κ)
    (groupings : List ColumnRef) (rows : List ρ) :
    Represents key groupings rows (firstRows key groupings rows) := by
  by_cases hgroup : groupings = []
  · subst hgroup
    exact ⟨List.Subset.refl _, fun _ => List.Perm.refl _, fun hne => absurd rfl hne⟩
  -- Every shown row is one of the rows, and each group shows one.
  rw [firstRows, if_neg (by rwa [List.isEmpty_iff])]
  refine ⟨fun row hrow => ?_, fun hnone => absurd hnone hgroup, fun _ => ?_⟩
  · obtain ⟨value, -, hfind⟩ := List.mem_filterMap.mp hrow
    exact List.mem_of_find?_eq_some hfind
  · -- Each group has a first row, whose group it is.
    have hall : ∀ values ⊆ groupValues key groupings rows,
        groupValues key groupings (values.filterMap fun value =>
          rows.find? fun row => groupings.map (key row) = value) = values := by
      intro values hvalues
      induction values with
      | nil => rfl
      | cons value values ih =>
          obtain ⟨row, hrow, hvalue⟩ := List.mem_map.mp (hvalues List.mem_cons_self)
          obtain ⟨first, hfirst⟩ := Option.isSome_iff_exists.mp
            (List.find?_isSome (p := fun row => decide (groupings.map (key row) = value)).mpr
              ⟨row, hrow, decide_eq_true hvalue⟩)
          have hgroup : groupings.map (key first) = value := by simpa using List.find?_some hfirst
          simp only [List.filterMap_cons, hfirst]
          rw [groupValues, List.map_cons, hgroup]
          exact congrArg (value :: ·) (ih fun v hv => hvalues (List.mem_cons_of_mem _ hv))
    rw [hall _ (List.dedup_subset _)]

/-- It knows the rows of a selection. -/
def addressing : Addressing keeper (List (Alias × TableRow)) (Option Int64) where
  view st := st
  matched := matched
  root := rootRow
  key := cellNumber
  root_mem := by
    intro st table joins conditions row hrow
    obtain ⟨t, ht, rfl⟩ := List.mem_map.mp (List.mem_filter.mp hrow).1
    rwa [rootRow_joined]
  project c dialect selection column w hwindow := by
    refine ⟨_, w, _, rfl, rfl, ?_, represents_firstRows cellNumber selection.groupings _⟩
    rw [hwindow, List.map_map]
    refine List.map_congr_left fun row _ => ?_
    rw [← cell_main]
    rfl
  delete c dialect selection w _ _ _ := by
    refine ⟨_, _, rfl, funext fun name => ?_⟩
    unfold dropping
    split
    · rename_i hname
      subst hname
      refine List.filter_congr fun t ht => ?_
      have hmeans : w.means selection t = true
          ↔ ∃ m ∈ w.matched selection.table selection.joins selection.conditions,
            rootRow m = t := by
        constructor
        · intro hholds
          exact ⟨_, List.mem_filter.mpr ⟨List.mem_map_of_mem ht, hholds⟩, rootRow_joined ..⟩
        · rintro ⟨m, hm, rfl⟩
          obtain ⟨hmem, hholds⟩ := List.mem_filter.mp hm
          obtain ⟨t, -, rfl⟩ := List.mem_map.mp hmem
          rw [rootRow_joined]
          exact hholds
      rw [Bool.eq_iff_iff]
      simp only [decide_eq_true_eq, ← hmeans, Bool.not_eq_true', Bool.not_eq_true]
    · rfl

end Store

namespace Dao

/-! ### A crew -/

/-- Five people: the boss of two is the boss of two others. -/
def crew : Store := fun table =>
  if table = "people" then [person 1 0, person 2 1, person 3 1, person 4 2, person 5 3] else []

/-- Access to them. -/
def crewDao : Dao Store Unit (Option Int64) where
  db := .of Store.keeper
  model := Program.peopleModel
  kind := ()

/-- One of the people whose boss has the first one for a boss, the last
one of them first, on a page of its own. -/
def lastBelow : Criteria Unit :=
  Criteria.run Criteria.people crewDao.criteria
    [.filter .and "boss.bossId" .membership (.array [.int64 1]), .order "id" .descending,
      .limit (some 1), .paging ⟨1, 2, 0, true⟩]

/-- A session in which a unit is open. -/
def crewSession : Session Store :=
  ((crewDao.db.openUnit none).exec (.start crew)).2

/-- Both of them are meant, whatever order, limit and page say. -/
theorem deleteCascadeByCriteria_addresses_crew :
    ((crewDao.rootIds lastBelow).exec crewSession).1.toOption = some [4, 5] ∧
      ((crewDao.deleteRows lastBelow).exec crewSession).2.world
        = crew.without "people" "id" [4, 5] ∧
      (((crewDao.deleteRows lastBelow).exec crewSession).2.world "people").map
        (fun t => (t "id").number?) = [some 1, some 2, some 3] := by
  have hread : ((crewDao.rootIds lastBelow).exec crewSession).1.toOption = some [4, 5] := by
    decide +kernel
  have hkeyed : Store.Keyed crew crewDao.model.schema () :=
    ⟨[1, 2, 3, 4, 5], by decide, by decide +kernel⟩
  obtain ⟨-, -, hall⟩ := deleteCascadeByCriteria_addresses (c := lastBelow)
    (Store.addressing : Addressing crewDao.db.source _ _) rfl rfl
  -- The numbers that were read are those of the theorem.
  obtain ⟨ids, shown, rows, read, deleted, hids, hdelete, -, -, -, -, hungrouped⟩ :=
    hall crewSession rfl hkeyed
  obtain rfl : ids = [4, 5] := by
    rw [hids] at hread
    exact Option.some.inj hread
  refine ⟨hread, ?_, by decide +kernel⟩
  rw [hdelete]
  exact (hungrouped rfl).2 _ rfl

/-- Grouped by their bosses, four of five people are found, and the one
that has his boss in common with another one stays. The plain delete takes
all. -/
theorem deleteCascadeByCriteria_grouped :
    ((crewDao.rootIds byBoss).exec crewSession).1.toOption = some [1, 2, 4, 5] ∧
      ((crewDao.deleteCascadeByCriteria.exec (byBoss, .start crew)).2.2.world "people").map
        (fun t => (t "id").number?) = [some 3] ∧
      ((crewDao.deleteByCriteria byBoss).exec (.start crew)).2.world "people" = [] ∧
      ¬ ∀ i, i ∈ [1, 2, 4, 5] ↔
        ∃ m ∈ Store.addressing.meant crewDao.model.schema byBoss crew,
          crewDao.model.schema.identityOf? () (Store.addressing.root m) = some i := by
  refine ⟨by decide +kernel, by decide +kernel, ?_, fun hall => ?_⟩
  · exact List.eq_nil_of_length_eq_zero (by decide +kernel)
  · have hthird : some 3 ∈ (Store.addressing.meant crewDao.model.schema byBoss crew).map fun m =>
        crewDao.model.schema.identityOf? () (Store.addressing.root m) := by
      decide +kernel
    exact absurd ((hall 3).mpr (List.mem_map.mp hthird)) (by decide)

end Dao

end DataAccess
