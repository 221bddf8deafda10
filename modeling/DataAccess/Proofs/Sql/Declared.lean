import DataAccess.Proofs.Criteria.Reference
import DataAccess.Sql.Dialect

/-!
# `DataAccess.Proofs.Sql.Declared`: aliases that a statement declares

In the FROM part of a statement every table gets an alias: the table of
the criteria first, then each joined table in a clause of its own, which
also names the table that it is joined to. A database reads these clauses
from left to right, so that an alias must be new where it is given, and
given before it is named.

`Dialect.Declares` reads the text of the clauses in this way, with the
aliases that were given so far. It holds of the text that the joins of a
criteria are written as (`Selection.Introduced.declares`), as these are
written in the order of their identifiers, in which a path goes before all
paths that it begins.

`Dialect.around` is the text of a statement with its FROM part left open,
and `text_around` puts the part in. A write of SQLite has one only where
it picks rows: in the query for their numbers.

The other parts of a statement refer to aliases, too. What they refer to
was resolved when the criteria was put together, and is among the aliases
that the FROM part gives (`Traced.declared`).
-/

set_option autoImplicit false

namespace DataAccess

variable {ι : Type}

/-! ### Clauses that declare aliases -/

/-- The text joins one table after another. Each is given an alias that
none was given before, and is joined to a table whose alias is declared
already. -/
inductive Dialect.Declares (d : Dialect) : List String → List JoinedTable → String → Prop
  | nil (declared : List String) : Declares d declared [] ""
  | join {declared : List String} {j : JoinedTable} {joins : List JoinedTable} {text : String} :
      j.tableAlias.text ∉ declared → j.baseAlias.text ∈ declared →
      Declares d (declared ++ [j.tableAlias.text]) joins text →
      Declares d declared (j :: joins)
        (" LEFT JOIN " ++ d.quote j.table ++ " " ++ j.tableAlias.text ++ " ON "
          ++ j.tableAlias.text ++ "." ++ j.idColumn ++ " = "
          ++ j.baseAlias.text ++ "." ++ j.baseColumn ++ text)

/-- The clause of the first join is written before the others. -/
theorem Dialect.joinClauses_cons (d : Dialect) (j : JoinedTable) (joins : List JoinedTable) :
    d.joinClauses (j :: joins)
      = " LEFT JOIN " ++ d.quote j.table ++ " " ++ j.tableAlias.text ++ " ON "
          ++ j.tableAlias.text ++ "." ++ j.idColumn ++ " = "
          ++ j.baseAlias.text ++ "." ++ j.baseColumn ++ d.joinClauses joins := by
  have hfirst : d.joinClauses (j :: joins) = d.joinClause j ++ d.joinClauses joins := by
    unfold joinClauses
    exact String.join_cons
  rw [hfirst]
  unfold joinClause ColumnRef.text
  simp only [String.append_assoc]

namespace Selection

/-- The aliases that the FROM part of the statements of a selection
declares. -/
def aliases (s : Selection) : List String :=
  Alias.main.text :: s.joins.map (·.tableAlias.text)

/-- A reference is to the table of the selection itself, or to a column
of a table whose alias is declared. -/
def Refers (s : Selection) (text : String) : Prop :=
  text = Alias.main.text ∨ ∃ given ∈ s.aliases, ∃ column, text = given ++ "." ++ column

variable {s : Selection}

/-- The clauses from a join on, when those before it have been read. -/
theorem Introduced.declares_after (h : s.Introduced) (d : Dialect)
    (earlier later : List JoinedTable) (hs : s.joins = earlier ++ later) :
    d.Declares (Alias.main.text :: earlier.map (·.tableAlias.text)) later
      (d.joinClauses later) := by
  -- On the clauses that are left: what is declared grows as they are read.
  induction later generalizing earlier with
  | nil => exact .nil _
  | cons j later ih =>
      have hfresh : j.tableAlias.text ∉ Alias.main.text :: earlier.map (·.tableAlias.text) := by
        have honce := h.once
        rw [hs, List.map_append, List.map_cons, ← List.cons_append] at honce
        exact fun hmem => (List.disjoint_of_nodup_append honce) hmem (List.mem_cons_self ..)
      have hbase : j.baseAlias.text ∈ Alias.main.text :: earlier.map (·.tableAlias.text) := by
        rcases h.before earlier j later hs with hmain | ⟨b, hb, hbase⟩
        · rw [hmain]
          exact List.mem_cons_self ..
        · rw [← hbase]
          exact List.mem_cons_of_mem _ (List.mem_map_of_mem hb)
      have hlater := ih (earlier ++ [j]) (hs.trans (List.append_cons earlier j later))
      rw [List.map_append, List.map_singleton, ← List.cons_append] at hlater
      rw [Dialect.joinClauses_cons]
      exact .join hfresh hbase hlater

/-- The joined tables of a selection are written after its own table, so
that its alias is declared from the beginning. -/
theorem Introduced.declares (h : s.Introduced) (d : Dialect) :
    d.Declares [Alias.main.text] s.joins (d.joinClauses s.joins) :=
  h.declares_after d [] s.joins rfl

end Selection

/-! ### The statements around their FROM part -/

/-- The rows of a table that a statement is about. -/
def Statement.rows? : Statement → Option Selection
  | .find rows _ | .project rows _ | .count rows | .exist rows | .update rows _ | .delete rows =>
    some rows
  | .insert _ _ | .raw _ _ => none

namespace Dialect

/-- Picks the rows of a selection by their numbers, in a query with the
FROM part `source`. With no clause that picks any, all rows are meant. -/
def pickedFrom (d : Dialect) (s : Selection) (source : String) : String :=
  if d.rowClauses s = "" then ""
  else " WHERE rowid IN (SELECT t_main.rowid FROM " ++ source ++ d.rowClauses s ++ ")"

/-- The text of a statement with `source` for its FROM part. -/
def around (d : Dialect) (source : String) : Statement → String
  | .find rows columns =>
    "SELECT " ++ commas (columns.map fun c => c.text ++ " AS " ++ d.quote c.text)
      ++ " FROM " ++ source ++ d.rowClauses rows
  | .project rows expressions =>
    "SELECT " ++ commas (expressions.map expression) ++ " FROM " ++ source ++ d.rowClauses rows
  | .count rows => "SELECT COUNT(1) FROM " ++ source ++ d.rowClauses rows
  | .exist rows => "SELECT 1 FROM " ++ source ++ d.rowClauses rows
  | .update rows fields =>
    match d with
    | .mysql =>
      "UPDATE " ++ source ++ " SET " ++ commas (fields.map fun f => "t_main." ++ f.column ++ " = ?")
        ++ d.rowClauses rows
    | .sqlite =>
      "UPDATE " ++ d.quote rows.table ++ " SET "
        ++ commas (fields.map fun f => d.quote f.column ++ " = ?") ++ d.pickedFrom rows source
  | .delete rows =>
    match d with
    | .mysql => "DELETE t_main FROM " ++ source ++ d.rowClauses rows
    | .sqlite => "DELETE FROM " ++ d.quote rows.table ++ d.pickedFrom rows source
  | .insert table fields => d.insertText table fields
  | .raw text _ => text

/-- The FROM part and what follows it: table, joins, and what picks the
rows. -/
theorem source_eq (d : Dialect) (s : Selection) :
    d.source s = d.quote s.table ++ " t_main" ++ d.joinClauses s.joins ++ d.rowClauses s := by
  simp only [source, rootTable_eq, clauses, String.append_assoc]

/-- What restricts rows in SQLite is the query that picks them. -/
theorem rowRestriction_eq (d : Dialect) (s : Selection) :
    d.rowRestriction s
      = d.pickedFrom s (d.quote s.table ++ " t_main" ++ d.joinClauses s.joins) := by
  simp only [rowRestriction, pickedFrom, source_eq, String.append_assoc]
  rfl

/-- A statement about rows is made of its FROM part, with the table and
the clauses of the joins, and what stands around it. -/
theorem text_around (d : Dialect) {statement : Statement} {s : Selection}
    (h : statement.rows? = some s) :
    d.text statement
      = d.around (d.quote s.table ++ " t_main" ++ d.joinClauses s.joins) statement := by
  -- In what is read, the table and all clauses come at the end.
  have hread (head : String) : head ++ d.source s
      = head ++ (d.quote s.table ++ " t_main" ++ d.joinClauses s.joins) ++ d.rowClauses s := by
    rw [source_eq, ← String.append_assoc]
  cases statement with
  | insert _ _ | raw _ _ => cases h
  | find _ columns =>
      obtain rfl := Option.some.inj h
      exact hread ("SELECT " ++ commas (columns.map fun c => d.labelled c.text) ++ " FROM ")
  | project _ expressions =>
      obtain rfl := Option.some.inj h
      exact hread ("SELECT " ++ commas (expressions.map expression) ++ " FROM ")
  | count _ =>
      obtain rfl := Option.some.inj h
      exact hread "SELECT COUNT(1) FROM "
  | exist _ =>
      obtain rfl := Option.some.inj h
      exact hread "SELECT 1 FROM "
  -- In a write each dialect has them in a place of its own.
  | update rows fields =>
      obtain rfl := Option.some.inj h
      cases d with
      | mysql =>
          show "UPDATE " ++ rootTable .mysql rows.table ++ joinClauses .mysql rows.joins
              ++ (" SET " ++ commas (fields.map (assignment .mysql))) ++ rowClauses .mysql rows
            = "UPDATE " ++ (quote .mysql rows.table ++ " t_main" ++ joinClauses .mysql rows.joins)
              ++ " SET " ++ commas (fields.map (assignment .mysql)) ++ rowClauses .mysql rows
          simp only [rootTable_eq, String.append_assoc]
      | sqlite =>
          show "UPDATE " ++ quote .sqlite rows.table
              ++ (" SET " ++ commas (fields.map (assignment .sqlite)))
              ++ rowRestriction .sqlite rows
            = "UPDATE " ++ quote .sqlite rows.table ++ " SET "
              ++ commas (fields.map (assignment .sqlite)) ++ pickedFrom .sqlite rows _
          simp only [rowRestriction_eq, String.append_assoc]
  | delete rows =>
      obtain rfl := Option.some.inj h
      cases d with
      | mysql => exact hread "DELETE t_main FROM "
      | sqlite =>
          show "DELETE FROM " ++ quote .sqlite rows.table ++ rowRestriction .sqlite rows = _
          rw [rowRestriction_eq]
          rfl

end Dialect

/-! ### What the parts of a criteria refer to -/

namespace Criteria

/-- The references of a criteria, those of the filters, orders and
groupings and those marked in the templates, are to aliases that the FROM
part of its statements declares. -/
structure Declared (schema : Schema ι) (c : Criteria ι) (o : Origins ι) : Prop where
  conditions : List.Forall₂ (fun condition origin =>
    match condition.clause with
    | .filter column _ => (c.selection schema).Refers column.text
    | .template text => Template.Expands (fun _ text => (c.selection schema).Refers text)
      (Template.pieces c.marker none origin.text.toList) text.toList) c.conditions o.conditions
  orders : ∀ order ∈ c.orders, (c.selection schema).Refers order.column.text
  groupings : ∀ column ∈ c.groupings, (c.selection schema).Refers column.text

section Declared
variable {schema : Schema ι} {c : Criteria ι} {o : Origins ι} {root : ι}
  {before : JoinRegistry ι} {name text : String}

/-- A column of the root refers to the root's alias. -/
theorem refers_main (column : String) :
    (c.selection schema).Refers (ColumnRef.mk .main column).text :=
  Or.inr ⟨_, List.mem_cons_self .., column, rfl⟩

/-- What a name stands for now has an alias that is declared now. -/
theorem Lasting.refers {column : ColumnRef}
    (h : Lasting schema root before c.joins name column) :
    (c.selection schema).Refers column.text := by
  obtain ⟨table, field⟩ := column
  unfold Lasting at h
  split at h
  · obtain ⟨rfl, -⟩ := h
    exact refers_main field
  · obtain ⟨j, -, k, hk, hjk, -, rfl, -⟩ := h
    -- The join is still registered, so its alias is one of the statement's.
    have hgiven : j.tableAlias.text ∈ (c.selection schema).aliases := by
      refine List.mem_cons_of_mem _ (List.mem_map.mpr ⟨_, List.mem_map_of_mem hk, ?_⟩)
      rw [hjk]
    exact Or.inr ⟨_, hgiven, field, rfl⟩

/-- What a reference was rendered as refers to an alias of the joins. -/
theorem Rendered.refers (h : Rendered schema root before c.joins name text) :
    (c.selection schema).Refers text := by
  rcases h with ⟨-, rfl⟩ | ⟨-, rfl⟩ | ⟨column, rfl, hcolumn⟩
  · exact Or.inl rfl
  · exact refers_main _
  · exact hcolumn.refers

/-- What the parts of a criteria were traced to is declared. -/
theorem Traced.declared (h : Traced schema c o) : Declared schema c o where
  conditions := h.conditions.imp fun condition origin hfrom => by
    obtain ⟨connector, clause, values⟩ := condition
    -- A filter is about one column, a template about every reference in it.
    cases clause with
    | filter column comparison => exact Lasting.refers hfrom
    | template text => exact Template.Expands.mono (fun _ _ => Rendered.refers) hfrom
  orders := ((List.forall₂_and_left _ _).mp
    (h.orders.imp fun _ _ hlasting => ⟨hlasting.refers, hlasting⟩)).1
  groupings := ((List.forall₂_and_left _ _).mp
    (h.groupings.imp fun _ _ hlasting => ⟨hlasting.refers, hlasting⟩)).1

end Declared

/-- As long as joins are not cleared on their own, everything that a
criteria refers to is what it referred to when it was resolved, by way of
joins that are still there, under an alias that its statements declare.
The joins come in the order of their identifiers, each after the one it
hangs off, and their aliases are introduced once each. This is the order
of the clauses that they are written as, in both dialects, and these
clauses are in the FROM part of every statement about rows of the table
with these joins, whatever picks the rows: a read may have no limits, and
a write has no orders either. -/
theorem run_referenced (schema : Schema ι) (root : ι) (settings : QuerySettings)
    (changes : List Change) (hpaths : ∀ change ∈ changes, change.OnPaths DotFree)
    (hkept : ∀ change ∈ changes, change ≠ .clearFetches) :
    let c := run schema (new root settings) changes
    let o := origins schema (new root settings) {} changes
    let joins := c.joinedTables schema
    Traced schema c o ∧
      Declared schema c o ∧
      c.joins.joins.Pairwise (fun j k => j.identifier < k.identifier) ∧
      (c.selection schema).Introduced ∧
      ∀ d : Dialect,
        d.Declares ["t_main"] joins (d.joinClauses joins) ∧
          ∀ (rows : Selection) (statement : Statement),
            rows.table = (schema c.root).table → rows.joins = joins →
            statement.rows? = some rows →
            (d.sql statement).text
              = d.around (d.quote (schema c.root).table ++ " t_main" ++ d.joinClauses joins)
                statement := by
  intro c o joins
  have htraced : Traced schema c o := (traced_new schema root settings).run hkept
  have hjoins := run_wellFormed schema root settings hpaths
  -- The clauses are in the order of the joins, in which each base comes first.
  have hintroduced : (c.selection schema).Introduced := introduced_of_wellFormed hjoins
  refine ⟨htraced, htraced.declared, hjoins.sorted, hintroduced,
    fun d => ⟨hintroduced.declares d, fun rows statement htable hrows hstatement => ?_⟩⟩
  rw [← htable, ← hrows]
  exact d.text_around hstatement

/-- Two conditions and an order, of which the last one has joins in
common with the first, a fetch that fails after a join was made, and a
start all over again. -/
def referencesInTurn : List Change :=
  [.order "mentor.id" .ascending, .clear, .filter .and "boss.mentor.id" .equal (.int64 1),
    .condition .or "@mentor.id = (@from.id)" [], .fetch "mentor.boss.cat",
    .order "boss.mentor.boss.id" .ascending]

/-- The aliases of the conditions are those of joins that are there. A
deletion in SQLite declares them in the query for the rows, which has no
orders: `boss` before what goes on from it, and `mentor` last, whenever
they were made. -/
theorem run_referenced_people :
    let c := run people (new ()) referencesInTurn
    let joins := c.joinedTables people
    Traced people c (origins people (new ()) {} referencesInTurn) ∧
      Dialect.Declares .sqlite ["t_main"] joins (Dialect.joinClauses .sqlite joins) ∧
      c.whereSql? = some "t_1_1.id = ? OR (t_2.id = (t_main.id))" ∧
      c.joins.joins.map (fun j => (j.identifier, j.tableAlias.text))
        = [("boss", "t_1"), ("boss.mentor", "t_1_1"), ("boss.mentor.boss", "t_1_1_1"),
          ("mentor", "t_2")] ∧
      (Dialect.sql .sqlite (c.rowSelection.delete people)).text
        = "DELETE FROM \"people\" WHERE rowid IN (SELECT t_main.rowid FROM \"people\" t_main"
          ++ " LEFT JOIN \"people\" t_1 ON t_1.id = t_main.boss_id"
          ++ " LEFT JOIN \"people\" t_1_1 ON t_1_1.id = t_1.mentor_id"
          ++ " LEFT JOIN \"people\" t_1_1_1 ON t_1_1_1.id = t_1_1.boss_id"
          ++ " LEFT JOIN \"people\" t_2 ON t_2.id = t_main.mentor_id"
          ++ " WHERE t_1_1.id = ? OR (t_2.id = (t_main.id)))" := by
  intro c joins
  have hpaths : ∀ change ∈ referencesInTurn, change.OnPaths DotFree := by
    simp [referencesInTurn, Change.OnPaths]
  have hkept : ∀ change ∈ referencesInTurn, change ≠ .clearFetches := by
    simp [referencesInTurn]
  obtain ⟨htraced, -, -, -, htexts⟩ := run_referenced people () {} referencesInTurn hpaths hkept
  exact ⟨htraced, (htexts .sqlite).1, by decide +kernel, by decide +kernel, by decide +kernel⟩

end Criteria

end DataAccess
