import DataAccess.Proofs.Criteria.KnownTotal
import DataAccess.Sql.Dialect

/-!
# `DataAccess.Proofs.Sql.RowWrite`: which rows a write is about

A write is made for the rows of a criteria. It is restricted to them by
their conditions, and by nothing else of the criteria: `RowWrite.Restricted`
spells out the text of the statement, in either dialect. Without
conditions, and only then, the write is one of the whole table.

In MySQL the joined tables are part of what is written to, in SQLite of
the query for the rows. A dialect that looks at its clauses to see whether
to restrict the write at all comes to the same answer as one that looks at
the conditions, as the rows of a write have no other clauses
(`Dialect.rowClauses_rowSelection`).

The orders, groupings and limits of a criteria do not matter. An order by a
field of another table brings a join along when it is added, and a join is
part of the criteria like any other. Nothing else comes of the changes that
leave the conditions alone: `Criteria.rowSelection_run`.
-/

set_option autoImplicit false

namespace DataAccess

variable {ι : Type}

/-- What becomes of the rows of a criteria. -/
inductive RowWrite where
  /-- Columns get new values. -/
  | update (fields : List BoundField)
  | delete

namespace RowWrite

/-- The statement for the rows of a criteria. -/
def statement (schema : Schema ι) (c : Criteria ι) : RowWrite → Statement
  | update fields => c.rowSelection.update schema fields
  | delete => c.rowSelection.delete schema

/-- The values that columns get. -/
def values : RowWrite → List Value
  | update fields => fields.map (·.value)
  | delete => []

/-- The statement for a whole table. -/
def unrestricted (d : Dialect) (table : String) (joins : List JoinedTable) : RowWrite → String
  | update fields =>
    let assignments := " SET " ++ Dialect.commas (fields.map d.assignment)
    match d with
    | .mysql => "UPDATE " ++ (d.quote table ++ " t_main") ++ d.joinClauses joins ++ assignments
    | .sqlite => "UPDATE " ++ d.quote table ++ assignments
  | delete =>
    match d with
    | .mysql => "DELETE t_main FROM " ++ (d.quote table ++ " t_main") ++ d.joinClauses joins
    | .sqlite => "DELETE FROM " ++ d.quote table

end RowWrite

/-- What restricts a statement to the rows with some conditions. -/
def Dialect.restriction (d : Dialect) (table : String) (joins : List JoinedTable)
    (conditions : List Condition) : String :=
  match whereSql? conditions with
  | none => ""
  | some sql =>
    match d with
    | .mysql => " WHERE " ++ sql
    | .sqlite =>
      " WHERE rowid IN (SELECT t_main.rowid FROM " ++ d.quote table ++ " t_main"
        ++ d.joinClauses joins ++ " WHERE " ++ sql ++ ")"

/-! ### Clauses -/

/-- There is no WHERE clause just without conditions. -/
theorem whereSql?_eq_none_iff {conditions : List Condition} :
    whereSql? conditions = none ↔ conditions = [] := by
  cases conditions with
  | nil => exact ⟨fun _ => rfl, fun _ => rfl⟩
  | cons c cs => exact ⟨nofun, nofun⟩

namespace Dialect

variable (d : Dialect) (schema : Schema ι) (c : Criteria ι)

/-- The rows of a write have no clauses but their conditions. -/
theorem rowClauses_rowSelection :
    d.rowClauses (c.rowSelection.selection schema) = whereClause c.conditions := by
  show whereClause c.conditions ++ "" ++ "" ++ "" = _
  rw [String.append_empty, String.append_empty, String.append_empty]

/-- Nothing restricts the rows just if there are no conditions. -/
theorem restriction_eq_empty_iff (table : String) (joins : List JoinedTable)
    {conditions : List Condition} :
    d.restriction table joins conditions = "" ↔ conditions = [] := by
  rw [← whereSql?_eq_none_iff, restriction]
  cases whereSql? conditions with
  | none => exact ⟨fun _ => rfl, fun _ => rfl⟩
  | some sql => cases d <;> simp

/-- The text of an UPDATE statement. -/
theorem text_update (rows : Selection) (fields : List BoundField) :
    d.text (.update rows fields) = d.updateText rows fields := rfl

/-- The text of a DELETE statement. -/
theorem text_delete (rows : Selection) : d.text (.delete rows) = d.deleteText rows := rfl

/-- In MySQL the conditions stand behind everything else. -/
theorem restriction_mysql (table : String) (joins : List JoinedTable)
    (conditions : List Condition) :
    restriction .mysql table joins conditions = whereClause conditions := by
  cases hwhere : whereSql? conditions with
  | none => simp only [restriction, whereClause, hwhere]
  | some sql => simp only [restriction, whereClause, hwhere]

/-- In SQLite they stand in a query, which is left out if it has none. -/
theorem restriction_sqlite :
    restriction .sqlite (schema c.root).table (c.joinedTables schema) c.conditions
      = rowRestriction .sqlite (c.rowSelection.selection schema) := by
  rw [rowRestriction, source, clauses, rowClauses_rowSelection, restriction, whereClause]
  cases whereSql? c.conditions with
  | none => rfl
  | some sql =>
      -- The clause is not empty, whatever the conditions say.
      have hclause : " WHERE " ++ sql ≠ "" := by simp
      dsimp only
      rw [if_neg hclause]
      simp only [rootTable, String.append_assoc]
      rfl

/-- The statement for the rows of a criteria is the one for its table, with
what restricts it. -/
theorem text_statement (rows : RowWrite) :
    d.text (rows.statement schema c)
      = rows.unrestricted d (schema c.root).table (c.joinedTables schema)
        ++ d.restriction (schema c.root).table (c.joinedTables schema) c.conditions := by
  -- The dialects put joins in different places, so each text is laid out by itself.
  cases d with
  | mysql =>
      rw [restriction_mysql, ← rowClauses_rowSelection .mysql schema c]
      cases rows with
      | update fields =>
          rw [RowWrite.statement, Criteria.update, text_update, updateText, rootTable_eq]
          rfl
      | delete =>
          have hhead : "DELETE " ++ Alias.main.text ++ " FROM " = "DELETE t_main FROM " := rfl
          rw [RowWrite.statement, Criteria.delete, text_delete, deleteText, source, clauses,
            hhead, ← String.append_assoc, ← String.append_assoc, rootTable_eq]
          rfl
  | sqlite =>
      rw [restriction_sqlite]
      cases rows with
      | update fields =>
          rw [RowWrite.statement, Criteria.update, text_update, updateText]
          rfl
      | delete =>
          rw [RowWrite.statement, Criteria.delete, text_delete, deleteText]
          rfl

/-- The values of a write come before those of the conditions. -/
theorem params_statement (rows : RowWrite) :
    (rows.statement schema c).params = rows.values ++ c.values := by
  cases rows <;> rfl

end Dialect

/-! ### Changes that do not matter -/

namespace Criteria

variable (schema : Schema ι)

/-- The rows that a write means are those of `c₀`, found through other
joins perhaps. -/
def SameRows (c₀ c : Criteria ι) : Prop :=
  SameButJoins c₀.rowSelection c.rowSelection

/-- What is registered on the way does not change which rows a write is
about. -/
theorem resolvable_sameRows (c₀ : Criteria ι) :
    Resolvable schema (fun _ => True) (SameRows c₀) where
  dotFree _ _ := trivial
  resolve _ _ _ _ :=
    Work.keeps_within (R := fun _ => True) (fun _ _ => trivial) (fun _ _ => trivial)
      fun _ _ h _ => h
  restore _ _ _ h := h

/-- A change of the criteria that leaves all but the joins of its rows
alone. -/
theorem keeps_sameRows_modify (c₀ : Criteria ι) {f : Criteria ι → Criteria ι}
    (h : ∀ c, SameButJoins c.rowSelection (f c).rowSelection) :
    Work.Keeps (SameRows c₀) (modify f : Work (Criteria ι) PUnit) := by
  refine Work.keeps_modify fun c hc => ?_
  show { (f c).rowSelection with joins := c₀.joins } = c₀.rowSelection
  rw [← show { c.rowSelection with joins := c₀.joins } = c₀.rowSelection from hc,
    ← show { (f c).rowSelection with joins := c.joins } = c.rowSelection from h c]

/-- A change that neither adds nor clears conditions leaves the rows that a
write means as they are, whether it fails or not. -/
theorem Change.keeps_sameRows {change : Change} (hrenews : change.renews = false)
    (c₀ : Criteria ι) : Work.Keeps (SameRows c₀) (change.work schema) := by
  have hresolve := resolvable_sameRows schema c₀
  cases change with
  | filter | condition | clearConditions | clear => cases hrenews
  | order field direction =>
      exact Work.keeps_bind (hresolve.resolveField field) fun column =>
        keeps_sameRows_modify c₀ fun c => rfl
  | grouping field =>
      exact Work.keeps_bind (hresolve.resolveField field) fun column =>
        keeps_sameRows_modify c₀ fun c => rfl
  | fetchPath path => exact hresolve.fetchPath trivial
  | fetch path => exact hresolve.fetchPath trivial
  | fetches paths => exact hresolve.addFetches paths
  | resolve name =>
      exact Work.keeps_bind (hresolve.resolveField name) fun column => Work.keeps_pure _
  | page number =>
      -- Where there is no page, or none of this number, the criteria stays.
      refine Work.keeps_get_bind fun c hc => ?_
      split
      · exact Work.keeps_fail _
      · exact Work.keeps_bind (Work.keeps_ofResult _) fun moved =>
          keeps_sameRows_modify c₀ fun c => rfl
  | limit _ | paging _ | suspendLimits | restoreLimits _ | clearOrders | clearGroupings
    | clearFetches | clearLimit | clearPaging | rowSelection =>
      exact keeps_sameRows_modify c₀ fun c => rfl

/-- Many such changes leave them as they are, too. -/
theorem rowSelection_run (c : Criteria ι) {changes : List Change}
    (h : ∀ change ∈ changes, change.renews = false) :
    SameRows c (c.run schema changes) := by
  suffices hrun : ∀ c', SameRows c c' → SameRows c (c'.run schema changes) from hrun c rfl
  induction changes with
  | nil => exact fun c' hc' => hc'
  | cons change changes ih =>
      intro c' hc'
      obtain ⟨hchange, hrest⟩ := List.forall_mem_cons.mp h
      exact ih hrest _ (change.keeps_sameRows schema hchange c c' hc')

end Criteria

namespace RowWrite

/-- What a write says of the rows of a criteria. -/
structure Restricted (d : Dialect) (schema : Schema ι) (c : Criteria ι) (rows : RowWrite) :
    Prop where
  /-- It is the one of the whole table, with what restricts it. -/
  text : (d.sql (rows.statement schema c)).text
    = rows.unrestricted d (schema c.root).table (c.joinedTables schema)
      ++ d.restriction (schema c.root).table (c.joinedTables schema) c.conditions
  /-- The whole table is meant only if there are no conditions. -/
  whole : (d.sql (rows.statement schema c)).text
      = rows.unrestricted d (schema c.root).table (c.joinedTables schema) ↔ c.conditions = []
  /-- Values of columns come before those of conditions. -/
  params : (d.sql (rows.statement schema c)).params = rows.values ++ c.values
  /-- How the rows are ordered, grouped and limited does not matter. -/
  unordered : ∀ orders groupings limit paging,
    rows.statement schema
        { c with orders := orders, groupings := groupings, limit := limit, paging := paging }
      = rows.statement schema c
  /-- Changes that leave the conditions alone matter by their joins only. -/
  rejoined : ∀ changes : List Criteria.Change, (∀ change ∈ changes, change.renews = false) →
    rows.statement schema (c.run schema changes)
      = rows.statement schema { c with joins := (c.run schema changes).joins }

/-- Every write of a criteria's rows is restricted as its conditions say. -/
theorem restricted (d : Dialect) (schema : Schema ι) (c : Criteria ι) (rows : RowWrite) :
    rows.Restricted d schema c where
  text := d.text_statement schema c rows
  whole := by
    have hself (s r : String) : s ++ r = s ↔ r = "" := by
      rw [← String.toList_inj, ← String.toList_inj, String.toList_append]
      exact List.append_right_eq_self
    show d.text (rows.statement schema c) = _ ↔ _
    rw [d.text_statement, hself, d.restriction_eq_empty_iff]
  params := Dialect.params_statement schema c rows
  unordered _ _ _ _ := by cases rows <;> rfl
  rejoined changes h := by
    -- The rows are the same once the joins are those of the other criteria.
    have hrows : (c.run schema changes).rowSelection
        = { c with joins := (c.run schema changes).joins }.rowSelection :=
      congrArg (fun same : Criteria ι => { same with joins := (c.run schema changes).joins })
        (c.rowSelection_run schema h)
    cases rows with
    | update fields => exact congrArg (Criteria.update schema · fields) hrows
    | delete => exact congrArg (Criteria.delete schema) hrows

/-- People whose boss has the mentor 7; the order does not show. -/
example :
    (Dialect.sql .sqlite (RowWrite.delete.statement Criteria.people
      ((Criteria.new ()).run Criteria.people
        [.filter .and "boss.mentorId" .equal (.int64 7), .order "id" .descending]))).text
      = "DELETE FROM \"people\" WHERE rowid IN (SELECT t_main.rowid FROM \"people\" t_main"
        ++ " LEFT JOIN \"people\" t_1 ON t_1.id = t_main.boss_id WHERE t_1.mentor_id = ?)" := by
  decide +kernel

end RowWrite

end DataAccess
