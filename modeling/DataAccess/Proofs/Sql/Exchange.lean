import DataAccess.Proofs.Criteria.Exchange
import DataAccess.Sql.Dialect

/-!
# `DataAccess.Proofs.Sql.Exchange`: texts that do not depend on values

A condition is written with a placeholder for each of its values, and
nothing else of a statement looks at them: conditions that are alike have
the same text (`Condition.Alike.sql_eq`, `whereSql?_alike`), and so has
every statement that is made for criteria that are alike
(`Alike.text_eq`).

`run_exchanged`: programs that differ in the values they pass along cannot
be told apart by anything but these values.
-/

set_option autoImplicit false

namespace DataAccess

variable {ι : Type}

/-! ### Conditions and clauses -/

/-- A condition does not show its values, but only how many they are. -/
theorem Condition.Alike.sql_eq {d d' : Condition} (h : d.Alike d') : d.sql = d'.sql := by
  obtain ⟨connector, clause, values⟩ := d
  obtain ⟨connector', clause', values'⟩ := d'
  obtain ⟨rfl, rfl, hlength⟩ := h
  -- A membership has as many placeholders as values; the others do not look at them.
  cases clause with
  | template text => rfl
  | filter column comparison =>
      cases comparison with
      | membership =>
          simp only [Condition.sql]
          rw [show values.length = values'.length from hlength]
      | _ => rfl

/-- Conditions that are alike, one by one, are written alike. -/
theorem whereSql?_alike {ds ds' : List Condition} (h : List.Forall₂ Condition.Alike ds ds') :
    whereSql? ds = whereSql? ds' := by
  -- The conditions after the first one, each with its connector.
  have hrest : ∀ {ds ds' : List Condition}, List.Forall₂ Condition.Alike ds ds' → ∀ sql : String,
      ds.foldl (fun sql d => sql ++ " " ++ d.connector.sql ++ " " ++ d.sql) sql
        = ds'.foldl (fun sql d => sql ++ " " ++ d.connector.sql ++ " " ++ d.sql) sql := by
    intro ds ds' h
    induction h with
    | nil => exact fun _ => rfl
    | cons hd _ ih =>
        intro sql
        rw [List.foldl_cons, List.foldl_cons, hd.connector, hd.sql_eq]
        exact ih _
  cases h with
  | nil => rfl
  | cons hd hds =>
      rw [whereSql?, whereSql?, hd.sql_eq]
      exact congrArg some (hrest hds _)

namespace Dialect

variable (d : Dialect) {s : Selection} {conditions : List Condition}
  (h : whereSql? conditions = whereSql? s.conditions)
include h

/-- Conditions that are written alike leave the clauses that pick rows as
they are. -/
theorem rowClauses_of_whereSql? :
    d.rowClauses { s with conditions := conditions } = d.rowClauses s := by
  rw [rowClauses, rowClauses, whereClause, whereClause, h]

/-- Conditions that are written alike leave the clauses with their joins as
they are. -/
theorem clauses_of_whereSql? : d.clauses { s with conditions := conditions } = d.clauses s := by
  rw [clauses, clauses, d.rowClauses_of_whereSql? h]

/-- Conditions that are written alike leave the table with its clauses as
it is. -/
theorem source_of_whereSql? : d.source { s with conditions := conditions } = d.source s := by
  rw [source, source, d.clauses_of_whereSql? h]

/-- Conditions that are written alike leave the query for the rows of a
write as it is. -/
theorem rowRestriction_of_whereSql? :
    d.rowRestriction { s with conditions := conditions } = d.rowRestriction s := by
  rw [rowRestriction, rowRestriction, d.rowClauses_of_whereSql? h, d.source_of_whereSql? h]

/-- Conditions that are written alike leave an update as it is. -/
theorem updateText_of_whereSql? (fields : List BoundField) :
    d.updateText { s with conditions := conditions } fields = d.updateText s fields := by
  cases d with
  | mysql => simp only [updateText, rowClauses_of_whereSql? .mysql h]
  | sqlite => simp only [updateText, rowRestriction_of_whereSql? .sqlite h]

/-- Conditions that are written alike leave a deletion as it is. -/
theorem deleteText_of_whereSql? :
    d.deleteText { s with conditions := conditions } = d.deleteText s := by
  cases d with
  | mysql => simp only [deleteText, source_of_whereSql? .mysql h]
  | sqlite => simp only [deleteText, rowRestriction_of_whereSql? .sqlite h]

end Dialect

/-! ### Statements -/

/-- The kinds of statements that are made for a criteria. -/
inductive StatementKind where
  | find
  | project (columns : List ColumnRef)
  | count
  | exist
  | update (fields : List BoundField)
  | delete

namespace StatementKind

/-- The statement of a kind that is made for a criteria. -/
def statement (schema : Schema ι) (c : Criteria ι) : StatementKind → Statement
  | .find => c.find schema
  | .project columns => c.project schema columns
  | .count => c.count schema
  | .exist => c.exist schema
  | .update fields => c.update schema fields
  | .delete => c.delete schema

/-- The values that a statement has before those of its criteria. -/
def own : StatementKind → List Value
  | .update fields => fields.map (·.value)
  | _ => []

/-- The values of a statement are its own, and after them those of the
criteria. -/
theorem params_statement (schema : Schema ι) (c : Criteria ι) (kind : StatementKind) :
    (kind.statement schema c).params = kind.own ++ c.values := by
  cases kind <;> rfl

end StatementKind

namespace Criteria

variable {schema : Schema ι} {given : List (Value × Value)} {c c' : Criteria ι}

/-- Criteria that are alike have their conditions written alike. -/
theorem Alike.whereSql?_eq (h : Alike given c c') (schema : Schema ι) :
    DataAccess.whereSql? c'.conditions = DataAccess.whereSql? (c.selection schema).conditions :=
  (whereSql?_alike h.conditions).symm

/-- Criteria that are alike differ in nothing that is selected but their
conditions. -/
theorem Alike.selection_eq (h : Alike given c c') :
    c'.selection schema = { c.selection schema with conditions := c'.conditions } := by
  conv_lhs => rw [h.rest]
  rfl

/-- So their clauses are the same. -/
theorem Alike.clauses_eq (h : Alike given c c') (d : Dialect) :
    d.clauses (c.selection schema) = d.clauses (c'.selection schema) := by
  rw [h.selection_eq, d.clauses_of_whereSql? (h.whereSql?_eq schema)]

/-- Statements for criteria that are alike have one text. -/
theorem Alike.text_eq (h : Alike given c c') (d : Dialect) (kind : StatementKind) :
    d.text (kind.statement schema c) = d.text (kind.statement schema c') := by
  have hwhere := h.whereSql?_eq schema
  have hsource : d.source (c'.selection schema) = d.source (c.selection schema) := by
    rw [h.selection_eq, d.source_of_whereSql? hwhere]
  cases kind with
  | find =>
      -- What is read of the rows follows from the joins.
      have hcolumns : c'.projection schema = c.projection schema := by
        conv_lhs => rw [h.rest]
        rfl
      show "SELECT " ++ Dialect.commas ((c.projection schema).map fun r => d.labelled r.text)
          ++ " FROM " ++ d.source (c.selection schema)
        = "SELECT " ++ Dialect.commas ((c'.projection schema).map fun r => d.labelled r.text)
          ++ " FROM " ++ d.source (c'.selection schema)
      rw [hsource, hcolumns]
  | project columns =>
      exact congrArg ("SELECT " ++ Dialect.commas ((columns.map .column).map Dialect.expression)
        ++ " FROM " ++ ·) hsource.symm
  | count => exact congrArg ("SELECT COUNT(1) FROM " ++ ·) hsource.symm
  | exist => exact congrArg ("SELECT 1 FROM " ++ ·) hsource.symm
  | update fields =>
      show d.updateText (c.selection schema) fields = d.updateText (c'.selection schema) fields
      rw [h.selection_eq, d.updateText_of_whereSql? hwhere]
  | delete =>
      show d.deleteText (c.selection schema) = d.deleteText (c'.selection schema)
      rw [h.selection_eq, d.deleteText_of_whereSql? hwhere]

/-- Two programs make the same changes, but pass other values along. Their
calls go the same way, with the same errors; they have the same joins, and
resolve every name to the same column; and every statement they make has the
same text in both dialects. Its values are those that the programs passed
along at the same places, in order, after those of the statement itself. -/
theorem run_exchanged (schema : Schema ι) (root : ι) (settings : QuerySettings)
    {changes changes' : List Change} (h : List.Forall₂ Change.Exchanged changes changes') :
    let c := run schema (new root settings) changes
    let c' := run schema (new root settings) changes'
    outcomes schema (new root settings) changes = outcomes schema (new root settings) changes' ∧
      c.joins = c'.joins ∧
      (∀ name, ((resolveField schema name).exec c).1 = ((resolveField schema name).exec c').1) ∧
      (∀ d : Dialect, d.clauses (c.selection schema) = d.clauses (c'.selection schema) ∧
        ∀ kind : StatementKind,
          (d.sql (kind.statement schema c)).text = (d.sql (kind.statement schema c')).text ∧
            (d.sql (kind.statement schema c)).params = kind.own ++ c.values ∧
            (d.sql (kind.statement schema c')).params = kind.own ++ c'.values) ∧
      c.values.length = c'.values.length ∧
      (c.values.zip c'.values).Sublist ((passed changes).zip (passed changes')) := by
  intro c c'
  -- What is known of the runs: their outcomes, and that they end alike.
  obtain ⟨houtcomes, halike⟩ := Alike.run schema h (alike_refl_new root settings)
  have hjoins : c.joins = c'.joins := (congrArg Criteria.joins halike.rest).symm
  refine ⟨houtcomes, hjoins, fun name => (agree_resolveField schema name c c' halike).1,
    fun d => ⟨halike.clauses_eq d, fun kind => ⟨halike.text_eq d kind, ?_, ?_⟩⟩,
    halike.length_values, halike.paired⟩
  · exact kind.params_statement schema c
  · exact kind.params_statement schema c'

/-- A membership, a filter on what is no field, and a condition, with the
values left open. -/
def changesWith (first second : Int64) (third : Value) : List Change :=
  [.filter .and "boss.id" .membership (.array [.int64 first, .int64 second]),
    .filter .and "cat.id" .equal (.int64 first),
    .condition .or "@mentor.bossId = ?" [third]]

/-- One of the values reads like a condition itself. The filter in the
middle is refused with all values, and leaves none of them behind. -/
theorem run_exchanged_people :
    let c := run people (new ()) (changesWith 1 2 (.int64 3))
    let c' := run people (new ()) (changesWith 4 5 (.string "0 OR 1 = 1"))
    (Dialect.sql .sqlite (c.delete people)).text = (Dialect.sql .sqlite (c'.delete people)).text ∧
      (Dialect.sql .sqlite (c.delete people)).params.map Value.typeName
        = ["int64", "int64", "int64"] ∧
      (Dialect.sql .sqlite (c'.delete people)).params.map Value.typeName
        = ["int64", "int64", "string"] ∧
      outcomes people (new ()) (changesWith 1 2 (.int64 3))
        = outcomes people (new ()) (changesWith 4 5 (.string "0 OR 1 = 1")) := by
  intro c c'
  have hexchanged : List.Forall₂ Change.Exchanged (changesWith 1 2 (.int64 3))
      (changesWith 4 5 (.string "0 OR 1 = 1")) :=
    .cons (.members (by simp) rfl rfl rfl) (.cons (.scalar rfl rfl)
      (.cons (.values (.cons (.inr ⟨rfl, rfl⟩) .nil)) .nil))
  obtain ⟨houtcomes, -, -, htexts, -, -⟩ := run_exchanged people () {} hexchanged
  exact ⟨((htexts .sqlite).2 .delete).1, by decide +kernel, by decide +kernel, houtcomes⟩

end Criteria

end DataAccess
