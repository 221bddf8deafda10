import DataAccess.Proofs.Criteria.Change
import DataAccess.Proofs.Sql.Filled

/-!
# `DataAccess.Proofs.Sql.FilledStatement`: statements with their values

The text of a statement and the list of its values are put together
apart from each other, and a database matches them by position.
`Dialect.filled` puts the same text together with every value written at
the placeholder that is there for it: the values of the fields of a
write, those of a filter, those of a template.

It has the text of `Dialect.text` (`text_filled`), whatever the
statement, and the values of `Statement.params`
(`values_filledSource` and its kin), if the conditions are sound.
-/

set_option autoImplicit false

namespace DataAccess

open Filled (plain mark)

variable {ι : Type}

/-! ### Statements with their values -/

/-- A condition, its values at its placeholders. -/
def Condition.filled (c : Condition) : Filled :=
  match c.clause with
  | .filter column .membership =>
    plain (column.text ++ " IN (") ++ Filled.commas (c.values.map fun v => mark (some v))
      ++ plain ")"
  | .filter column comparison =>
    plain (column.text ++ " " ++ comparison.sql ++ " ") ++ mark c.values.head?
  | .template text => plain "(" ++ Template.fill none text.toList c.values ++ plain ")"

namespace Dialect

/-- The conditions after the first one, each with its connector. -/
def filledConnected (conditions : List Condition) : Filled :=
  conditions.flatMap fun c => plain (" " ++ c.connector.sql ++ " ") ++ c.filled

/-- The conditions of a selection. -/
def filledWhere : List Condition → Filled
  | [] => []
  | c :: cs => plain " WHERE " ++ c.filled ++ filledConnected cs

/-- The clauses of a selection other than its joins. -/
def filledRows (d : Dialect) (s : Selection) : Filled :=
  filledWhere s.conditions
    ++ plain (groupClause s.groupings ++ orderClause s.orders ++ d.windowClause s.window)

/-- The table of a selection and its clauses. -/
def filledSource (d : Dialect) (s : Selection) : Filled :=
  plain (d.rootTable s.table ++ d.joinClauses s.joins) ++ d.filledRows s

/-- The rows that a write of SQLite means. -/
def filledRestriction (d : Dialect) (s : Selection) : Filled :=
  if d.rowClauses s = "" then []
  else
    plain (" WHERE rowid IN (SELECT " ++ Alias.main.text ++ ".rowid FROM ")
      ++ d.filledSource s ++ plain ")"

/-- What the value of a field is given to. -/
def assigned (d : Dialect) (f : BoundField) : String :=
  match d with
  | .mysql => (ColumnRef.mk .main f.column).text ++ " = "
  | .sqlite => d.quote f.column ++ " = "

/-- The new values of an update. -/
def filledSet (d : Dialect) (fields : List BoundField) : Filled :=
  plain " SET " ++ Filled.commas (fields.map fun f => plain (d.assigned f) ++ mark (some f.value))

/-- Updates rows. -/
def filledUpdate (d : Dialect) (s : Selection) (fields : List BoundField) : Filled :=
  match d with
  | .mysql =>
    plain ("UPDATE " ++ d.rootTable s.table ++ d.joinClauses s.joins) ++ d.filledSet fields
      ++ d.filledRows s
  | .sqlite =>
    plain ("UPDATE " ++ d.quote s.table) ++ d.filledSet fields ++ d.filledRestriction s

/-- Deletes rows. -/
def filledDelete (d : Dialect) (s : Selection) : Filled :=
  match d with
  | .mysql => plain ("DELETE " ++ Alias.main.text ++ " FROM ") ++ d.filledSource s
  | .sqlite => plain ("DELETE FROM " ++ d.quote s.table) ++ d.filledRestriction s

/-- Adds a row. -/
def filledInsert (d : Dialect) (table : String) (fields : List BoundField) : Filled :=
  if fields.isEmpty then plain (d.emptyInsert table)
  else
    plain ("INSERT INTO " ++ d.quote table ++ " ("
        ++ commas (fields.map fun f => d.quote f.column) ++ ") VALUES (")
      ++ Filled.commas (fields.map fun f => mark (some f.value)) ++ plain ")"

/-- A statement, its values at its placeholders. -/
def filled (d : Dialect) : Statement → Filled
  | .find rows columns =>
    plain ("SELECT " ++ commas (columns.map fun c => d.labelled c.text) ++ " FROM ")
      ++ d.filledSource rows
  | .project rows expressions =>
    plain ("SELECT " ++ commas (expressions.map expression) ++ " FROM ") ++ d.filledSource rows
  | .count rows => plain "SELECT COUNT(1) FROM " ++ d.filledSource rows
  | .exist rows => plain "SELECT 1 FROM " ++ d.filledSource rows
  | .update rows fields => d.filledUpdate rows fields
  | .delete rows => d.filledDelete rows
  | .insert table fields => d.filledInsert table fields
  | .raw text params => Template.fill none text.toList params

end Dialect

/-! ### The text is that of the statement -/

/-- A condition with its places is written as the condition is. -/
theorem Condition.text_filled (c : Condition) : c.filled.text = c.sql := by
  obtain ⟨connector, clause, values⟩ := c
  cases clause with
  | filter column comparison =>
      -- A membership has a place for every value, any other comparison has one.
      have hmarks : (values.map fun v => mark (some v)).map Filled.text
          = List.replicate values.length "?" := by
        rw [List.map_map, List.eq_replicate_iff]
        simp
      cases comparison <;> simp [filled, sql, hmarks, Dialect.commas, String.append_assoc]
  | template text => simp [filled, sql, String.append_assoc]

namespace Dialect

/-- Conditions that follow others come with their connectors. -/
theorem text_filledConnected (start : String) (conditions : List Condition) :
    start ++ Filled.text (filledConnected conditions)
      = conditions.foldl (fun sql c => sql ++ " " ++ c.connector.sql ++ " " ++ c.sql) start := by
  -- Over the conditions, for any text that they are added to.
  induction conditions generalizing start with
  | nil => exact String.append_empty
  | cons c cs ih =>
      rw [List.foldl_cons, ← ih, filledConnected, List.flatMap_cons]
      simp only [Filled.text_append, Filled.text_plain, c.text_filled, String.append_assoc]
      rfl

/-- The conditions of a statement are written as its clause is. -/
theorem text_filledWhere (conditions : List Condition) :
    (filledWhere conditions).text = whereClause conditions := by
  cases conditions with
  | nil => rfl
  | cons c cs =>
      rw [filledWhere, Filled.text_append, Filled.text_append, Filled.text_plain,
        c.text_filled, String.append_assoc, text_filledConnected]
      rfl

section
variable (d : Dialect) (s : Selection)

/-- The clauses that pick rows are written as they are sent: only the
conditions have places. -/
theorem text_filledRows : (d.filledRows s).text = d.rowClauses s := by
  rw [filledRows, Filled.text_append, text_filledWhere, Filled.text_plain, rowClauses,
    String.append_assoc, String.append_assoc, String.append_assoc]

/-- The table with its joins and clauses is written as it is sent. -/
theorem text_filledSource : (d.filledSource s).text = d.source s := by
  rw [filledSource, Filled.text_append, Filled.text_plain, text_filledRows, source, clauses,
    String.append_assoc]

/-- The query for the rows of a write is written as it is sent. -/
theorem text_filledRestriction : (d.filledRestriction s).text = d.rowRestriction s := by
  unfold filledRestriction rowRestriction
  split
  · rfl
  · rw [Filled.text_append, Filled.text_append, Filled.text_plain, Filled.text_plain,
      text_filledSource]

/-- The columns that are set are written as they are sent. -/
theorem text_filledSet (fields : List BoundField) :
    (d.filledSet fields).text = " SET " ++ commas (fields.map d.assignment) := by
  -- Only the dialect's spelling of the column differs.
  have hassign : ∀ f, (plain (d.assigned f) ++ mark (some f.value)).text = d.assignment f := by
    intro f
    cases d <;> simp [assigned, assignment, String.append_assoc]
  rw [filledSet, Filled.text_append, Filled.text_plain, Filled.text_commas, List.map_map]
  exact congrArg (" SET " ++ commas ·) (List.map_congr_left fun f _ => hassign f)

/-- An update is written as it is sent. -/
theorem text_filledUpdate (fields : List BoundField) :
    (d.filledUpdate s fields).text = d.updateText s fields := by
  cases d with
  | mysql =>
      rw [filledUpdate, Filled.text_append, Filled.text_append, Filled.text_plain,
        text_filledSet, text_filledRows]
      rfl
  | sqlite =>
      rw [filledUpdate, Filled.text_append, Filled.text_append, Filled.text_plain,
        text_filledSet, text_filledRestriction]
      rfl

/-- A deletion is written as it is sent. -/
theorem text_filledDelete : (d.filledDelete s).text = d.deleteText s := by
  cases d with
  | mysql => rw [filledDelete, Filled.text_append, Filled.text_plain, text_filledSource]; rfl
  | sqlite => rw [filledDelete, Filled.text_append, Filled.text_plain, text_filledRestriction]; rfl

/-- An insertion is written as it is sent. -/
theorem text_filledInsert (table : String) (fields : List BoundField) :
    (d.filledInsert table fields).text = d.insertText table fields := by
  have hmarks : (fields.map fun f => mark (some f.value)).map Filled.text
      = fields.map fun _ => "?" := by
    rw [List.map_map]
    rfl
  unfold filledInsert insertText
  split
  · -- A row without values has no places.
    exact Filled.text_plain _
  · rw [Filled.text_append, Filled.text_append, Filled.text_plain, Filled.text_plain,
      Filled.text_commas, hmarks]

/-- The statement with its values has the text of the statement. -/
theorem text_filled (statement : Statement) : (d.filled statement).text = d.text statement := by
  -- A query is its head and its source; each of the writes has its own lemma.
  cases statement with
  | find rows columns => rw [filled, Filled.text_append, Filled.text_plain, text_filledSource]; rfl
  | project rows expressions =>
      rw [filled, Filled.text_append, Filled.text_plain, text_filledSource]; rfl
  | count rows => rw [filled, Filled.text_append, Filled.text_plain, text_filledSource]; rfl
  | exist rows => rw [filled, Filled.text_append, Filled.text_plain, text_filledSource]; rfl
  | update rows fields => exact d.text_filledUpdate rows fields
  | delete rows => exact d.text_filledDelete rows
  | insert table fields => exact d.text_filledInsert table fields
  | raw text params => exact Filled.text_fill none text params

end

end Dialect

/-! ### The values are those of the statement -/

/-- The values of a sound condition are all written at placeholders. -/
theorem Condition.values_filled {schema : Schema ι} {c : Condition} (hc : c.Sound schema) :
    c.filled.values = c.values := by
  obtain ⟨connector, clause, values⟩ := c
  cases clause with
  | template text =>
      -- The values were counted when the condition was added.
      have hcount : (Template.marks none text.toList).count true = values.length := by
        rw [← Template.placeholdersFrom_eq_count]
        exact hc
      have hfill := Template.filterMap_snd_fill hcount
      simp only [filled, Filled.values_append, Filled.values_plain, List.append_nil,
        List.nil_append]
      exact hfill
  | filter column comparison =>
      by_cases hcomparison : comparison = .membership
      · subst hcomparison
        simp [filled, List.flatMap_map]
      · -- Any other comparison is with one value.
        obtain ⟨v, rfl⟩ := List.length_eq_one_iff.mp (hc.2 hcomparison)
        cases comparison <;> simp_all [filled]

namespace Dialect

/-- Each column that is set has a place with its value. -/
theorem values_filledSet (d : Dialect) (fields : List BoundField) :
    (d.filledSet fields).values = fields.map (·.value) := by
  rw [filledSet, Filled.values_append, Filled.values_plain, List.nil_append,
    Filled.values_commas, List.flatMap_map]
  induction fields with
  | nil => rfl
  | cons f fs ih =>
      rw [List.flatMap_cons, ih]
      simp

/-- Conditions that are sound have places for their values, one after
another. -/
theorem values_filledConnected {schema : Schema ι} {conditions : List Condition}
    (hs : ∀ c ∈ conditions, c.Sound schema) :
    Filled.values (filledConnected conditions) = conditions.flatMap (·.values) := by
  induction conditions with
  | nil => rfl
  | cons c cs ih =>
      have hc : c.filled.values = c.values := Condition.values_filled (hs c (by simp))
      have hcs := ih fun d hd => hs d (by simp [hd])
      rw [filledConnected, List.flatMap_cons, Filled.values_append, Filled.values_append,
        Filled.values_plain, List.nil_append, hc, List.flatMap_cons]
      exact congrArg (c.values ++ ·) hcs

section
variable {schema : Schema ι} {s : Selection} (hs : ∀ c ∈ s.conditions, c.Sound schema)
include hs

/-- The clauses have places for the values of the conditions, and for no
others. -/
theorem values_filledRows (d : Dialect) : (d.filledRows s).values = s.params := by
  rw [filledRows, Filled.values_append, Filled.values_plain, List.append_nil, Selection.params]
  cases hconditions : s.conditions with
  | nil => rfl
  | cons c cs =>
      rw [hconditions] at hs
      rw [filledWhere, Filled.values_append, Filled.values_append, Filled.values_plain,
        List.nil_append, Condition.values_filled (hs c (by simp)), List.flatMap_cons,
        values_filledConnected fun d hd => hs d (by simp [hd])]

/-- The table and its joins have none. -/
theorem values_filledSource (d : Dialect) : (d.filledSource s).values = s.params := by
  rw [filledSource, Filled.values_append, Filled.values_plain, List.nil_append,
    values_filledRows hs]

omit hs in
/-- Without clauses there are no conditions, and so no values. -/
theorem params_of_rowClauses {d : Dialect} (h : d.rowClauses s = "") : s.params = [] := by
  rw [Selection.params]
  cases hconditions : s.conditions with
  | nil => rfl
  | cons c cs =>
      rw [rowClauses, whereClause, hconditions] at h
      simp [whereSql?] at h

/-- The query for the rows has those of the selection, also if it is left
out. -/
theorem values_filledRestriction (d : Dialect) : (d.filledRestriction s).values = s.params := by
  unfold filledRestriction
  split
  · -- All rows are meant, so that there are no conditions to have values.
    rename_i h
    exact (params_of_rowClauses h).symm
  · rw [Filled.values_append, Filled.values_append, Filled.values_plain, Filled.values_plain,
      values_filledSource hs, List.nil_append, List.append_nil]

/-- A deletion has the values of its conditions. -/
theorem values_filledDelete (d : Dialect) : (d.filledDelete s).values = s.params := by
  cases d with
  | mysql =>
      rw [filledDelete, Filled.values_append, Filled.values_plain, List.nil_append,
        values_filledSource hs]
  | sqlite =>
      rw [filledDelete, Filled.values_append, Filled.values_plain, List.nil_append,
        values_filledRestriction hs]

/-- The values of the fields come before those of the conditions, in
both dialects. -/
theorem values_filledUpdate (d : Dialect) (fields : List BoundField) :
    (d.filledUpdate s fields).values = fields.map (·.value) ++ s.params := by
  cases d with
  | mysql =>
      rw [filledUpdate, Filled.values_append, Filled.values_append, Filled.values_plain,
        List.nil_append, values_filledSet, values_filledRows hs]
  | sqlite =>
      rw [filledUpdate, Filled.values_append, Filled.values_append, Filled.values_plain,
        List.nil_append, values_filledSet, values_filledRestriction hs]

end

/-- An insertion has a place for each of its fields. -/
theorem values_filledInsert (d : Dialect) (table : String) (fields : List BoundField) :
    (d.filledInsert table fields).values = fields.map (·.value) := by
  unfold filledInsert
  split
  · rename_i h
    simp [List.isEmpty_iff.mp h]
  · rw [Filled.values_append, Filled.values_append, Filled.values_plain, Filled.values_plain,
      List.nil_append, List.append_nil, Filled.values_commas_mark]

end Dialect

end DataAccess
