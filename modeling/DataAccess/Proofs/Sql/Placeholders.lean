import DataAccess.Proofs.Sql.FilledStatement

/-!
# `DataAccess.Proofs.Sql.Placeholders`: placeholders and their values

A database matches the values of a statement with its placeholders by
position, and what it takes for a placeholder depends on the quotes
before it. `Dialect.filled` says which value each placeholder was written
for; here every part of it is shown to be synchronized, from a single
condition up to a statement with its rows picked in a query of its own,
so that the database fills the text the same way.

`run_synchronized` holds for every statement about a criteria that a
program reaches, if the names in the schema are plain and no template
leaves a literal open.
-/

set_option autoImplicit false

namespace DataAccess

open Filled (plain mark)

variable {ι : Type}

/-! ### Every part is read as it was written -/

/-- The template, if it is one, leaves no literal open. -/
def Condition.Closed (c : Condition) : Prop :=
  match c.clause with
  | .filter _ _ => True
  | .template text => Template.literalAfter none text.toList = none

instance (c : Condition) : Decidable c.Closed := by
  unfold Condition.Closed
  split <;> infer_instance

/-- The names of tables and columns are plain. -/
def Schema.PlainNames (schema : Schema ι) : Prop :=
  ∀ k, Plain (schema k).table ∧ ∀ f ∈ (schema k).fields, Plain f.column

/-- So a column that a schema has is plain. -/
theorem Schema.PlainNames.column {schema : Schema ι} (h : schema.PlainNames) {column : String}
    (hc : schema.HasColumn column) : Plain column := by
  obtain ⟨k, f, hf, rfl⟩ := hc
  exact (h k).2 f hf

/-- The names of columns are plain, whatever those of tables are. -/
def Schema.PlainColumns (schema : Schema ι) : Prop :=
  ∀ column, schema.HasColumn column → Plain column

/-- Digits are neither quotes nor placeholders. -/
theorem plain_toString (n : Nat) : Plain (toString n) := by
  intro c hc
  have hdigits : (toString n).toList = Nat.toDigits 10 n := Nat.toList_repr
  rw [hdigits] at hc
  -- Neither a question mark nor a quote is a digit.
  have hdigit := Nat.isDigit_of_mem_toDigits (by decide) (by decide) hc
  constructor
  · rintro rfl
    exact absurd hdigit (by decide)
  · by_contra hquote
    simp only [Template.isQuote, Bool.not_eq_false, Bool.or_eq_true, beq_iff_eq] at hquote
    rcases hquote with rfl | rfl <;> exact absurd hdigit (by decide)

/-- Aliases are made of letters, digits and underscores. -/
theorem Alias.plain_text (a : Alias) : Plain a.text := by
  unfold Alias.text
  split
  · decide
  · refine Plain.append (by decide) (Plain.intercalate (by decide) ?_)
    intro t ht
    obtain ⟨n, -, rfl⟩ := List.mem_map.mp ht
    exact plain_toString n

/-- A column of an alias is as plain as its own name. -/
theorem ColumnRef.plain_text {c : ColumnRef} (h : Plain c.column) :
    Plain c.text :=
  (c.table.plain_text.append (by decide)).append h

/-- Each comparison is a sign or a word. -/
theorem Comparison.plain_sql (c : Comparison) : Plain c.sql := by
  cases c <;> decide

/-- A connector is plain. -/
theorem Connector.plain_sql (c : Connector) : Plain c.sql := by
  cases c <;> decide

/-- An order is a column and a direction. -/
theorem Order.plain_sql {o : Order} (h : Plain o.column.column) : Plain o.sql := by
  have hdirection : Plain o.direction.sql := by cases o.direction <;> decide
  exact ((ColumnRef.plain_text h).append (by decide)).append hdirection

/-- A sound condition of which no literal stays open is read as it was
written. -/
theorem Condition.synchronized_filled {schema : Schema ι} (hplain : schema.PlainColumns)
    {c : Condition} (hc : c.Sound schema) (hclosed : c.Closed) : c.filled.Synchronized := by
  obtain ⟨connector, clause, values⟩ := c
  have hopen : Silent "(" := Plain.silent (by decide)
  have hclose : Silent ")" := Plain.silent (by decide)
  cases clause with
  | template text =>
      -- The parentheses stand outside of the literals of the template.
      have hcount : (Template.marks none text.toList).count true = values.length := by
        rw [← Template.placeholdersFrom_eq_count]
        exact hc
      exact (Filled.Synchronized.append hopen (Filled.synchronized_fill hcount hclosed)).append
        hclose
  | filter column comparison =>
      have hcolumn : Plain column.text := ColumnRef.plain_text (hplain _ hc.1)
      by_cases hcomparison : comparison = .membership
      · -- One placeholder for each of the values, however many there are.
        subst hcomparison
        have hin : Silent (column.text ++ " IN (") := (hcolumn.append (by decide)).silent
        refine (Filled.Synchronized.append hin (Filled.Synchronized.commas fun m hm => ?_)).append
          hclose
        obtain ⟨v, -, rfl⟩ := List.mem_map.mp hm
        exact Filled.synchronized_mark v
      · -- One placeholder for the only value.
        obtain ⟨v, rfl⟩ := List.length_eq_one_iff.mp (hc.2 hcomparison)
        have hcompares : Silent (column.text ++ " " ++ comparison.sql ++ " ") :=
          (((hcolumn.append (by decide)).append comparison.plain_sql).append (by decide)).silent
        have hall := Filled.Synchronized.append hcompares (Filled.synchronized_mark v)
        cases comparison <;> first | exact absurd rfl hcomparison | exact hall

/-- The names in the selection are plain, and its conditions are read as
they were written. -/
structure Selection.Readable (s : Selection) : Prop where
  table : Plain s.table
  joins : ∀ j ∈ s.joins, Plain j.table ∧ Plain j.idColumn ∧ Plain j.baseColumn
  conditions : ∀ c ∈ s.conditions, c.filled.Synchronized
  groupings : ∀ column ∈ s.groupings, Plain column.column
  orders : ∀ order ∈ s.orders, Plain order.column.column

namespace Dialect

/-- Texts with commas between them are silent if they are. -/
theorem silent_commas {ts : List String} (hts : ∀ t ∈ ts, Silent t) : Silent (commas ts) :=
  Silent.intercalate (Plain.silent (by decide)) hts

/-- The name of the table is quoted, and its alias is plain. -/
theorem silent_rootTable (d : Dialect) {table : String} (h : Plain table) :
    Silent (d.rootTable table) :=
  ((silent_quote d h).append (Plain.silent (by decide))).append Alias.main.plain_text.silent

/-- A window is written in numbers. -/
theorem plain_windowClause (d : Dialect) (window : Window) : Plain (d.windowClause window) := by
  cases window with
  | all => exact (by decide : Plain "")
  | limit rows => exact Plain.append (by decide) (plain_toString _)
  | page paging =>
      -- The dialects write the two numbers in different orders.
      have hoffset := plain_toString paging.startIndex.toNat
      have hsize := plain_toString paging.pageSize.toNat
      cases d with
      | mysql =>
          exact ((Plain.append (by decide) hoffset).append (by decide)).append hsize
      | sqlite =>
          exact ((Plain.append (by decide) hsize).append (by decide)).append hoffset

/-- Each condition is read alone, as those before it leave no literal
open. -/
theorem synchronized_filledConnected {conditions : List Condition}
    (h : ∀ c ∈ conditions, c.filled.Synchronized) :
    Filled.Synchronized (filledConnected conditions) := by
  refine Filled.synchronized_flatMap fun c hc => ?_
  have hconnector : Silent (" " ++ c.connector.sql ++ " ") :=
    ((Plain.append (by decide) c.connector.plain_sql).append (by decide)).silent
  exact Filled.Synchronized.append hconnector (h c hc)

section
variable {s : Selection} (h : s.Readable)
include h

/-- The tables are quoted, and aliases and columns are plain. -/
theorem silent_joinClauses (d : Dialect) : Silent (d.joinClauses s.joins) := by
  refine silent_join fun t ht => ?_
  obtain ⟨j, hj, rfl⟩ := List.mem_map.mp ht
  obtain ⟨htable, hid, hbase⟩ := h.joins j hj
  have hid' : Plain (ColumnRef.mk j.tableAlias j.idColumn).text := ColumnRef.plain_text hid
  have hbase' : Plain (ColumnRef.mk j.baseAlias j.baseColumn).text := ColumnRef.plain_text hbase
  -- The clause part by part: the quoted table, its alias, and the two columns.
  have hname : Silent (" LEFT JOIN " ++ d.quote j.table) :=
    (Plain.silent (by decide)).append (silent_quote d htable)
  exact (((((hname.append (Plain.silent (by decide))).append j.tableAlias.plain_text.silent).append
    (Plain.silent (by decide))).append hid'.silent).append (Plain.silent (by decide))).append
    hbase'.silent

/-- The groupings are columns with commas between them. -/
theorem plain_groupClause : Plain (groupClause s.groupings) := by
  unfold groupClause
  split
  · decide
  · refine Plain.append (by decide) (Plain.intercalate (by decide) fun t ht => ?_)
    obtain ⟨column, hcolumn, rfl⟩ := List.mem_map.mp ht
    exact ColumnRef.plain_text (h.groupings column hcolumn)

/-- The orders are plain, with their directions. -/
theorem plain_orderClause : Plain (orderClause s.orders) := by
  unfold orderClause
  split
  · decide
  · refine Plain.append (by decide) (Plain.intercalate (by decide) fun t ht => ?_)
    obtain ⟨order, horder, rfl⟩ := List.mem_map.mp ht
    exact Order.plain_sql (h.orders order horder)

/-- The conditions have the placeholders of their values, and the other
clauses have none. -/
theorem synchronized_filledRows (d : Dialect) : (d.filledRows s).Synchronized := by
  have hrest : Silent (groupClause s.groupings ++ orderClause s.orders
      ++ d.windowClause s.window) :=
    (((plain_groupClause h).append (plain_orderClause h)).append
      (plain_windowClause d s.window)).silent
  refine Filled.Synchronized.append ?_ hrest
  cases hconditions : s.conditions with
  | nil => exact Filled.synchronized_nil
  -- The first condition follows the word, and each of the others its connector.
  | cons c cs =>
      have hsync := h.conditions
      rw [hconditions] at hsync
      have hwhere : Silent " WHERE " := Plain.silent (by decide)
      exact (Filled.Synchronized.append hwhere (hsync c (by simp))).append
        (synchronized_filledConnected fun d hd => hsync d (by simp [hd]))

/-- The table and the joins come before the clauses, and have no
placeholders. -/
theorem synchronized_filledSource (d : Dialect) : (d.filledSource s).Synchronized :=
  Filled.Synchronized.append ((silent_rootTable d h.table).append (silent_joinClauses h d))
    (synchronized_filledRows h d)

/-- The query for the rows is in parentheses, without any placeholder
outside. -/
theorem synchronized_filledRestriction (d : Dialect) :
    (d.filledRestriction s).Synchronized := by
  unfold filledRestriction
  split
  · exact Filled.synchronized_nil
  · have hstart : Silent (" WHERE rowid IN (SELECT " ++ Alias.main.text ++ ".rowid FROM ") :=
      Plain.silent (by decide)
    have hend : Silent ")" := Plain.silent (by decide)
    exact (Filled.Synchronized.append hstart (synchronized_filledSource h d)).append hend

end

/-- Each column that is set has the placeholder of its value. -/
theorem synchronized_filledSet (d : Dialect) {fields : List BoundField}
    (hfields : ∀ f ∈ fields, Plain f.column) : (d.filledSet fields).Synchronized := by
  have hset : Silent " SET " := Plain.silent (by decide)
  refine Filled.Synchronized.append hset (Filled.Synchronized.commas fun m hm => ?_)
  obtain ⟨f, hf, rfl⟩ := List.mem_map.mp hm
  -- In MySQL the column is written with its alias, in SQLite in quotes.
  have hassigned : Silent (d.assigned f) := by
    have hequals : Silent " = " := Plain.silent (by decide)
    cases d with
    | mysql =>
        have hcolumn : Plain (ColumnRef.mk .main f.column).text :=
          ColumnRef.plain_text (hfields f hf)
        exact hcolumn.silent.append hequals
    | sqlite => exact (silent_quote .sqlite (hfields f hf)).append hequals
  exact Filled.Synchronized.append hassigned (Filled.synchronized_mark f.value)

/-- A deletion has the placeholders of its conditions. -/
theorem synchronized_filledDelete (d : Dialect) {s : Selection} (h : s.Readable) :
    (d.filledDelete s).Synchronized := by
  cases d with
  | mysql =>
      have hstart : Silent ("DELETE " ++ Alias.main.text ++ " FROM ") := Plain.silent (by decide)
      exact Filled.Synchronized.append hstart (synchronized_filledSource h .mysql)
  | sqlite =>
      have hstart : Silent ("DELETE FROM " ++ Dialect.quote .sqlite s.table) :=
        (Plain.silent (by decide)).append (silent_quote .sqlite h.table)
      exact Filled.Synchronized.append hstart (synchronized_filledRestriction h .sqlite)

/-- In an update those of the fields come first. -/
theorem synchronized_filledUpdate (d : Dialect) {s : Selection} (h : s.Readable)
    {fields : List BoundField} (hfields : ∀ f ∈ fields, Plain f.column) :
    (d.filledUpdate s fields).Synchronized := by
  have hset := synchronized_filledSet d hfields
  cases d with
  | mysql =>
      -- The joins come before the new values, and have no placeholders.
      have hstart : Silent ("UPDATE " ++ Dialect.rootTable .mysql s.table
          ++ Dialect.joinClauses .mysql s.joins) :=
        ((Plain.silent (by decide)).append (silent_rootTable .mysql h.table)).append
          (silent_joinClauses h .mysql)
      exact (Filled.Synchronized.append hstart hset).append (synchronized_filledRows h .mysql)
  | sqlite =>
      -- The rows are picked in a query of its own, after the new values.
      have hstart : Silent ("UPDATE " ++ Dialect.quote .sqlite s.table) :=
        (Plain.silent (by decide)).append (silent_quote .sqlite h.table)
      exact (Filled.Synchronized.append hstart hset).append
        (synchronized_filledRestriction h .sqlite)

/-- In an insertion there is one for each column. -/
theorem synchronized_filledInsert (d : Dialect) {table : String} (htable : Plain table)
    {fields : List BoundField} (hfields : ∀ f ∈ fields, Plain f.column) :
    (d.filledInsert table fields).Synchronized := by
  have hinto : Silent ("INSERT INTO " ++ d.quote table) :=
    (Plain.silent (by decide)).append (silent_quote d htable)
  unfold filledInsert
  split
  -- A row of defaults has none.
  · cases d with
    | mysql => exact hinto.append (Plain.silent (by decide) : Silent " () VALUES ()")
    | sqlite => exact hinto.append (Plain.silent (by decide) : Silent " DEFAULT VALUES")
  · have hcolumns : Silent (commas (fields.map fun f => d.quote f.column)) := by
      refine silent_commas fun t ht => ?_
      obtain ⟨f, hf, rfl⟩ := List.mem_map.mp ht
      exact silent_quote d (hfields f hf)
    have hstart := ((hinto.append (Plain.silent (by decide) : Silent " (")).append
      hcolumns).append (Plain.silent (by decide) : Silent ") VALUES (")
    have hend : Silent ")" := Plain.silent (by decide)
    refine (Filled.Synchronized.append hstart (Filled.Synchronized.commas fun m hm => ?_)).append
      hend
    obtain ⟨f, -, rfl⟩ := List.mem_map.mp hm
    exact Filled.synchronized_mark f.value

end Dialect

/-! ### The statements of a reachable criteria -/

/-- The joins are on columns that the schema declares. -/
def JoinRegistry.OnColumns (schema : Schema ι) (r : JoinRegistry ι) : Prop :=
  ∀ j ∈ r.joins, schema.HasColumn j.idColumn ∧ schema.HasColumn j.baseColumn

/-- The column of an identity is one that the schema has. -/
theorem Schema.hasColumn_of_identityField {schema : Schema ι} {k : ι} {identity : Field}
    (h : (schema k).identityField = .ok identity) : schema.HasColumn identity.column := by
  rw [Declaration.identityField] at h
  split at h
  · rename_i f hf
    cases h
    have hmem : identity ∈ (schema k).identities := by simp [hf]
    exact ⟨k, identity, (List.mem_filter.mp hmem).1, rfl⟩
  · cases h
  · cases h

/-- Every step along a path joins on declared columns. -/
theorem JoinRegistry.step_onColumns (schema : Schema ι) (root : ι) (base : Option (Join ι))
    (depth : Nat) (segment : String) :
    Work.Keeps (OnColumns schema) (step schema root base depth segment) := by
  intro r h
  rcases step_cases schema root base depth segment r with
    ⟨e, he⟩ | ⟨j, hj, -, -⟩ | ⟨j, hj, hmade, -⟩
  -- A step that fails, and one that finds its join, leave the joins as they are.
  · rw [he]
    exact h
  · rw [hj]
    exact h
  · -- The step made a join, on columns that it looked up in the schema.
    rw [hj]
    intro k hk
    rcases mem_grow.mp hk with rfl | ⟨l, hl, rfl⟩
    · obtain ⟨relation, identity, -, hid, hcolumn, -, -, hidColumn⟩ := hmade.follows
      rw [hidColumn]
      exact ⟨Schema.hasColumn_of_identityField hid, Schema.hasColumn_of_columnName hcolumn⟩
    · rw [bump_eq]
      exact h l hl

namespace Criteria

/-- A statement that is made for the criteria `c`, or that adds an
entity: with any bound fields, and with any columns that names were
resolved to, be it by another criteria. -/
inductive Compiled (schema : Schema ι) (c : Criteria ι) : Statement → Prop where
  | find : Compiled schema c (c.find schema)
  | project (columns : List ColumnRef) (resolved : ∀ column ∈ columns, ∃ name c₁ c₂,
      (resolveField schema name).exec c₁ = (.ok column, c₂)) :
      Compiled schema c (c.project schema columns)
  | count : Compiled schema c (c.count schema)
  | exist : Compiled schema c (c.exist schema)
  | delete : Compiled schema c (c.delete schema)
  | update (fields : List BoundField) (declared : ∀ f ∈ fields, schema.HasColumn f.column) :
      Compiled schema c (c.update schema fields)
  | insert (k : ι) (fields : List BoundField)
      (declared : ∀ f ∈ fields, schema.HasColumn f.column) :
      Compiled schema c (.insert (schema k).table fields)

section
variable {schema : Schema ι} {root : ι} {settings : QuerySettings} {c : Criteria ι}
  {statement : Statement}

/-- A criteria whose parts are sound says which rows are meant in a way
that can be read. -/
theorem Sound.readable (hplain : schema.PlainNames)
    (hc : Sound schema root settings (JoinRegistry.OnColumns schema) c)
    (hclosed : ∀ condition ∈ c.conditions, condition.Closed) :
    (c.selection schema).Readable where
  table := (hplain c.root).1
  joins j hj := by
    obtain ⟨k, hk, rfl⟩ := List.mem_map.mp hj
    -- Both sides of a join are columns of the schema.
    obtain ⟨hid, hbase⟩ := hc.joins k hk
    exact ⟨(hplain k.target).1, hplain.column hid, hplain.column hbase⟩
  conditions condition h :=
    Condition.synchronized_filled (fun _ => hplain.column) (hc.conditions condition h)
      (hclosed condition h)
  groupings column h := hplain.column (hc.groupings column h)
  orders order h := hplain.column (hc.orders order h)

/-- The values of a statement are those of its criteria, and before them
those of its fields. -/
theorem Compiled.values_filled (hs : Compiled schema c statement)
    (hc : ∀ condition ∈ c.conditions, condition.Sound schema) (d : Dialect) :
    (d.filled statement).values = statement.params := by
  have hread : ∀ text, (plain text ++ d.filledSource (c.selection schema)).values
      = (c.selection schema).params := by
    intro text
    rw [Filled.values_append, Filled.values_plain, List.nil_append]
    exact Dialect.values_filledSource hc d
  -- All that is read has its values in the clauses alone.
  cases hs with
  | find => exact hread _
  | project columns resolved => exact hread _
  | count => exact hread _
  | exist => exact hread _
  | delete => exact Dialect.values_filledDelete hc d
  | update fields declared => exact Dialect.values_filledUpdate hc d fields
  | insert k fields declared => exact Dialect.values_filledInsert d _ fields

/-- The columns of a find are columns of the schema. -/
theorem projection_declared (hplain : schema.PlainNames) :
    ∀ column ∈ c.projection schema, Plain column.column := by
  intro column hcolumn
  rw [projection] at hcolumn
  simp only [List.mem_append, List.mem_flatMap, List.mem_map] at hcolumn
  -- A column of the root, or one of a type that is fetched along.
  rcases hcolumn with ⟨f, hf, rfl⟩ | ⟨j, -, f, hf, rfl⟩
  · exact (hplain c.root).2 f hf
  · exact (hplain j.target).2 f hf

/-- Every statement that is made for a readable selection is synchronized. -/
theorem Compiled.synchronized_filled (hs : Compiled schema c statement)
    (hplain : schema.PlainNames) (h : (c.selection schema).Readable) (d : Dialect) :
    (d.filled statement).Synchronized := by
  have hread : ∀ text, Silent text →
      (plain text ++ d.filledSource (c.selection schema)).Synchronized :=
    fun text htext => Filled.Synchronized.append htext (Dialect.synchronized_filledSource h d)
  have hselect : ∀ ts, (∀ t ∈ ts, Silent t) →
      Silent ("SELECT " ++ Dialect.commas ts ++ " FROM ") := fun ts hts =>
    ((Plain.silent (by decide) : Silent "SELECT ").append (Dialect.silent_commas hts)).append
      (Plain.silent (by decide) : Silent " FROM ")
  cases hs with
  | find =>
      refine hread _ (hselect _ fun t ht => ?_)
      obtain ⟨column, hcolumn, rfl⟩ := List.mem_map.mp ht
      have htext := ColumnRef.plain_text (projection_declared hplain column hcolumn)
      exact (htext.silent.append (Plain.silent (by decide))).append (silent_quote d htext)
  | project columns resolved =>
      refine hread _ (hselect _ fun t ht => ?_)
      -- Names are resolved to declared columns, by whichever criteria.
      rw [List.map_map] at ht
      obtain ⟨column, hcolumn, rfl⟩ := List.mem_map.mp ht
      obtain ⟨name, c₁, c₂, hresolve⟩ := resolved column hcolumn
      have hdeclared := resolveField_returns schema name c₁ column c₂ hresolve
      exact (ColumnRef.plain_text (hplain.column hdeclared)).silent
  | count => exact hread _ (Plain.silent (by decide))
  | exist => exact hread _ (Plain.silent (by decide))
  | delete => exact Dialect.synchronized_filledDelete d h
  | update fields declared =>
      exact Dialect.synchronized_filledUpdate d h fun f hf => hplain.column (declared f hf)
  | insert k fields declared =>
      exact Dialect.synchronized_filledInsert d (hplain k).1 fun f hf =>
        hplain.column (declared f hf)

end

/-- Whatever changes led to a criteria, wherever they failed, every
statement that is made for it has as many placeholders as values, and a
database that fills the placeholders from left to right gives each one
the value that it was written for. -/
theorem run_synchronized (schema : Schema ι) (hplain : schema.PlainNames) (root : ι)
    (settings : QuerySettings) (changes : List Change)
    (hclosed : ∀ condition ∈ (run schema (new root settings) changes).conditions,
      condition.Closed)
    (statement : Statement)
    (hs : Compiled schema (run schema (new root settings) changes) statement) (d : Dialect) :
    Template.placeholders (d.sql statement).text = (d.sql statement).params.length ∧
      Template.fill none (d.sql statement).text.toList (d.sql statement).params
        = d.filled statement := by
  have hresolve : ∀ path, True → Work.Keeps (JoinRegistry.OnColumns schema)
      (JoinRegistry.resolve schema root settings.joinMaxDepth path) :=
    fun path _ => JoinRegistry.resolve_keeps (JoinRegistry.step_onColumns schema root) path
  have hempty : JoinRegistry.OnColumns schema .empty := fun _ h => absurd h List.not_mem_nil
  have hsound : Sound schema root settings (JoinRegistry.OnColumns schema)
      (run schema (new root settings) changes) :=
    run_sound hresolve (fun _ _ => trivial) hempty (sound_new hempty) fun change _ =>
      change.onPaths_true
  -- The text and the values come apart from the filled statement again.
  have hsync := hs.synchronized_filled hplain (hsound.readable hplain hclosed) d
  have htext : (d.sql statement).text = (d.filled statement).text :=
    (d.text_filled statement).symm
  have hvalues : (d.sql statement).params = (d.filled statement).values :=
    (hs.values_filled hsound.conditions d).symm
  rw [htext, hvalues]
  exact ⟨hsync.placeholders_eq, hsync.fill_eq⟩

/-- Three conditions, of which one is refused and one has a question mark
in a literal. -/
def conditionsInTurn : List Change :=
  [.filter .and "boss.id" .membership (.array [.int64 1, .int64 2]),
    .filter .and "cat.id" .equal (.int64 3),
    .condition .or "@mentorId = ? AND '?' <> ''" [.int64 4]]

/-- A new boss. -/
def newBoss : List BoundField := [⟨⟨"bossId", "boss_id", .bigInt, false⟩, .int64 5⟩]

/-- The update picks its rows in a query of its own, after the value of
the new boss. -/
theorem run_synchronized_people :
    let statement := (run people (new ()) conditionsInTurn).update people newBoss
    (Dialect.sql .sqlite statement).text
        = "UPDATE \"people\" SET \"boss_id\" = ? WHERE rowid IN (SELECT t_main.rowid FROM "
          ++ "\"people\" t_main LEFT JOIN \"people\" t_1 ON t_1.id = t_main.boss_id "
          ++ "WHERE t_1.id IN (?, ?) OR (t_main.mentor_id = ? AND '?' <> ''))" ∧
      Template.placeholders (Dialect.sql .sqlite statement).text = 4 ∧
      Template.fill none (Dialect.sql .sqlite statement).text.toList statement.params
        = Dialect.filled .sqlite statement := by
  intro statement
  have hplain : people.PlainNames := by
    rintro ⟨⟩
    exact ⟨by decide, by decide⟩
  have hdeclared : ∀ f ∈ newBoss, people.HasColumn f.column := by
    intro f hf
    rw [List.mem_singleton.mp hf]
    exact ⟨(), _, by decide, rfl⟩
  have h := run_synchronized people hplain () {} conditionsInTurn (by decide +kernel) statement
    (.update newBoss hdeclared) .sqlite
  have hcount : (Dialect.sql .sqlite statement).params.length = 4 := by decide +kernel
  exact ⟨by decide +kernel, h.1.trans hcount, h.2⟩

end Criteria

end DataAccess
