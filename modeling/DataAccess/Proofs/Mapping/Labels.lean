import DataAccess.Mapping
import DataAccess.Proofs.Criteria.JoinTree
import DataAccess.Proofs.Schema.Validity
import DataAccess.Sql.Statement

/-!
# `DataAccess.Proofs.Mapping.Labels`: the columns of a find and their labels

A find reads all columns of the root and of the joined tables, each
labelled by the alias of its table, a point and its name. The alias has
no point, so that a label can be read in one way only
(`ColumnRef.text_inj`). The tables of a criteria have different aliases,
and a valid declaration uses no column twice, so that no label comes
twice (`nodup_labels`).

A row that has these labels in order is then read by them: the exact
label is there, and so the search that ignores case is never asked
(`find?_text`). What a field of an entity is given is the value at the
place of its column, `Row.projected`, and nothing if that is null
(`populate_eq`).
-/

set_option autoImplicit false

namespace DataAccess

variable {ι ε : Type}

/-! ### Labels -/

/-- What is in texts with separators between them is in a separator or
in one of the texts. -/
private theorem mem_of_mem_intercalate {c : Char} {separator : List Char}
    {parts : List (List Char)} (h : c ∈ separator.intercalate parts) :
    c ∈ separator ∨ ∃ part ∈ parts, c ∈ part := by
  induction parts with
  | nil => simp at h
  | cons part parts ih =>
      cases parts with
      | nil => exact Or.inr ⟨part, by simp, by simpa using h⟩
      | cons next parts =>
          rw [List.intercalate_cons_cons, List.mem_append, List.mem_append] at h
          rcases h with (h | h) | h
          · exact Or.inr ⟨part, by simp, h⟩
          · exact Or.inl h
          · exact (ih h).imp_right fun ⟨p, hp, hc⟩ => ⟨p, List.mem_cons_of_mem _ hp, hc⟩

/-- Where neither text has a point, the first point ends it. -/
private theorem append_point_inj {xs ys as bs : List Char} (hx : '.' ∉ xs) (hy : '.' ∉ ys)
    (h : xs ++ '.' :: as = ys ++ '.' :: bs) : xs = ys ∧ as = bs := by
  -- Over the texts before the points, character by character.
  induction xs generalizing ys with
  | nil =>
      cases ys with
      | nil => exact ⟨rfl, (List.cons.inj h).2⟩
      | cons y ys => exact absurd ((List.cons.inj h).1 ▸ List.mem_cons_self) hy
  | cons x xs ih =>
      cases ys with
      | nil => exact absurd ((List.cons.inj h).1 ▸ List.mem_cons_self) hx
      | cons y ys =>
          obtain ⟨rfl, hrest⟩ := List.cons.inj h
          obtain ⟨rfl, has⟩ := ih (fun hin => hx (by simp [hin])) (fun hin => hy (by simp [hin]))
            hrest
          exact ⟨rfl, has⟩

/-- An alias is made of letters, underscores and digits. -/
theorem Alias.point_notMem_text (a : Alias) : '.' ∉ a.text.toList := by
  by_cases h : a.steps = []
  · have hmain : a.text = "t_main" := by simp [text, h]
    rw [hmain]
    decide
  · rw [toList_text h]
    intro hpoint
    have hdigits : '.' ∈ ['_'].intercalate (a.steps.map (Nat.toDigits 10)) := by
      simpa using hpoint
    -- The point would be in the digits of a step.
    obtain ⟨digits, hd, hin⟩ := (mem_of_mem_intercalate hdigits).resolve_left (by decide)
    obtain ⟨n, -, rfl⟩ := List.mem_map.mp hd
    have hdigit := Nat.isDigit_of_mem_toDigits (by decide) (by decide) hin
    exact absurd hdigit (by decide)

/-- Different columns have different labels. -/
theorem ColumnRef.text_inj {a b : ColumnRef} : a.text = b.text ↔ a = b := by
  refine ⟨fun h => ?_, congrArg ColumnRef.text⟩
  -- The label falls into its two parts at its first point.
  have hlist : a.table.text.toList ++ '.' :: a.column.toList
      = b.table.text.toList ++ '.' :: b.column.toList := by
    simpa [text] using congrArg String.toList h
  obtain ⟨htable, hcolumn⟩ :=
    append_point_inj a.table.point_notMem_text b.table.point_notMem_text hlist
  cases a
  cases b
  simp only [String.toList_inj, Alias.text_inj] at htable hcolumn
  rw [htable, hcolumn]

namespace Criteria

/-- The tables of the statements of a criteria, by their aliases: that of
the root, and the joined ones. -/
def tables (c : Criteria ι) : List (Alias × ι) :=
  (.main, c.root) :: c.joins.joins.map fun j => (j.tableAlias, j.target)

/-- The columns of a table, under its alias. -/
def columnsOf (schema : Schema ι) (table : Alias × ι) : List ColumnRef :=
  (schema table.2).fields.map fun f => ⟨table.1, f.column⟩

/-- A find projects the columns of its tables, one table after the other. -/
theorem projection_eq (schema : Schema ι) (c : Criteria ι) :
    c.projection schema = c.tables.flatMap (columnsOf schema) := by
  rw [tables, List.flatMap_cons, List.flatMap_map]
  rfl

/-- Every column of every table is projected. -/
theorem mem_projection {schema : Schema ι} {c : Criteria ι} {table : Alias × ι}
    (htable : table ∈ c.tables) {f : Field} (hf : f ∈ (schema table.2).fields) :
    ⟨table.1, f.column⟩ ∈ c.projection schema := by
  rw [projection_eq]
  exact List.mem_flatMap.mpr ⟨table, htable, List.mem_map.mpr ⟨f, hf, rfl⟩⟩

/-- Every table has an alias of its own. -/
theorem nodup_aliases {schema : Schema ι} {c : Criteria ι} {root : ι} {maxDepth : Nat}
    (h : JoinRegistry.WellFormed schema root maxDepth c.joins) :
    (c.tables.map (·.1)).Nodup := by
  rw [tables, List.map_cons, List.map_map, List.nodup_cons]
  refine ⟨fun hmem => ?_, ?_⟩
  · obtain ⟨j, hj, hmain⟩ := List.mem_map.mp hmem
    exact h.tree.notMain j hj (congrArg Alias.text hmain)
  · exact h.nodup.map_on fun j hj k hk => h.eq_of_tableAlias j hj k hk

/-- No column of a find comes twice, and no label. -/
theorem nodup_labels {schema : Schema ι} {c : Criteria ι} {root : ι} {maxDepth : Nat}
    (h : JoinRegistry.WellFormed schema root maxDepth c.joins)
    (hvalid : ∀ table ∈ c.tables, (schema table.2).validate = .ok ()) :
    ((c.projection schema).map (·.text)).Nodup := by
  have hinjective : Function.Injective ColumnRef.text := fun _ _ => ColumnRef.text_inj.mp
  -- Labels tell columns apart, so the columns are looked at.
  apply List.Nodup.map hinjective
  rw [projection_eq, List.nodup_flatMap]
  refine ⟨fun table htable => ?_, ?_⟩
  · -- Within a table, the columns are different.
    have hcolumns := Declaration.nodup_columns (hvalid table htable)
    refine List.Nodup.of_map ColumnRef.column ?_
    rwa [columnsOf, List.map_map]
  · -- Columns of different tables have different aliases.
    refine (List.pairwise_map.mp (nodup_aliases h)).imp fun {a b} hne ref ha hb => hne ?_
    obtain ⟨f, -, rfl⟩ := List.mem_map.mp ha
    obtain ⟨g, -, hg⟩ := List.mem_map.mp hb
    exact (congrArg ColumnRef.table hg).symm

end Criteria

/-! ### Reading a row by its labels -/

namespace Row

/-- The value at the place of a column, in a row of these columns in
order. -/
def projected (row : Row) (columns : List ColumnRef) (ref : ColumnRef) : Value :=
  ((columns.zip row.values).lookup ref).getD .null

/-- What answers to the label of a column is the value at its place. -/
theorem find?_text {row : Row} {columns : List ColumnRef}
    (hrow : row.columns = columns.map (·.text)) {ref : ColumnRef} (href : ref ∈ columns) :
    row.find? ref.text = some (ref.text, row.projected columns ref) := by
  -- The first cell with exactly this label; labels are searched for exactly first.
  have hexact : row.cells.find? (·.1 == ref.text)
      = some (ref.text, row.projected columns ref) := by
    obtain ⟨cells⟩ := row
    induction columns generalizing cells with
    | nil => exact absurd href List.not_mem_nil
    | cons column columns ih =>
        obtain _ | ⟨⟨label, v⟩, cells⟩ := cells
        · simp [Row.columns] at hrow
        obtain ⟨rfl, hrest⟩ : label = column.text ∧ cells.map (·.1) = columns.map (·.text) := by
          simpa [Row.columns] using hrow
        by_cases hhere : ref = column
        · simp [hhere, projected, Row.values]
        · -- Another column has another label, and both searches go on.
          have hlabel : column.text ≠ ref.text := fun h => hhere (ColumnRef.text_inj.mp h).symm
          have hgo := ih ((List.mem_cons.mp href).resolve_left hhere) cells hrest
          rw [List.find?_cons_of_neg (by simpa using hlabel), hgo]
          simp [projected, Row.values, List.lookup_cons, beq_eq_false_iff_ne.mpr hhere]
  rw [find?, hexact]
  rfl

/-- A column of the row has a value in it. -/
theorem projected_mem {row : Row} {columns : List ColumnRef}
    (hrow : row.columns = columns.map (·.text)) {ref : ColumnRef} (href : ref ∈ columns) :
    (ref, row.projected columns ref) ∈ columns.zip row.values := by
  have hlength : columns.length ≤ row.values.length := by
    simpa [Row.columns, values] using (congrArg List.length hrow).ge
  obtain ⟨cell, hcell, rfl⟩ : ∃ cell ∈ columns.zip row.values, cell.1 = ref := by
    rw [← List.mem_map, List.map_fst_zip hlength]
    exact href
  have hsome := List.lookup_isSome_iff.mpr ⟨cell, hcell, beq_self_eq_true cell.1⟩
  obtain ⟨v, hv⟩ := Option.isSome_iff_exists.mp hsome
  obtain ⟨before, after, hsplit, -⟩ := List.lookup_eq_some_iff.mp hv
  rw [projected, hv, hsplit]
  simp

end Row

namespace Model

/-- Gives a field of an entity a value, in the shape of its kind. A null
leaves the field alone. -/
def assign (m : Model ι ε) (f : Field) (v : Value) : Work ε Unit :=
  if v.isNull then pure ()
  else do set (← Work.ofResult (m.setValue f.name (v.coerce f.kind) (← get)))

/-- An entity is read by the labels that the find gave its columns. -/
theorem label_alias (a : Alias) (column : String) :
    label (some a.text) column = ColumnRef.text ⟨a, column⟩ := rfl

/-- The value of a column is what is at its place, if that is not null. -/
theorem columnValue?_eq {row : Row} {columns : List ColumnRef}
    (hrow : row.columns = columns.map (·.text)) {a : Alias} {f : Field}
    (href : ⟨a, f.column⟩ ∈ columns) :
    columnValue? row (some a.text) f
      = if (row.projected columns ⟨a, f.column⟩).isNull then none
        else some (row.projected columns ⟨a, f.column⟩) := by
  rw [columnValue?, label_alias, Row.find?_text hrow href]

/-- A field is given the value at the place of its column. -/
theorem populateField_eq (m : Model ι ε) {row : Row} {columns : List ColumnRef}
    (hrow : row.columns = columns.map (·.text)) {a : Alias} {f : Field}
    (href : ⟨a, f.column⟩ ∈ columns) :
    m.populateField row (some a.text) f = m.assign f (row.projected columns ⟨a, f.column⟩) := by
  rw [populateField, columnValue?_eq hrow href, assign]
  cases (row.projected columns ⟨a, f.column⟩).isNull <;> rfl

/-- An entity is given the values at the places of its columns. -/
theorem populate_eq (m : Model ι ε) {c : Criteria ι} {row : Row}
    (hrow : row.columns = (c.projection m.schema).map (·.text)) {table : Alias × ι}
    (htable : table ∈ c.tables) :
    m.populate table.2 row (some table.1.text)
      = (m.schema table.2).fields.forM fun f =>
          m.assign f (row.projected (c.projection m.schema) ⟨table.1, f.column⟩) := by
  have hfields : ∀ f ∈ (m.schema table.2).fields,
      m.populateField row (some table.1.text) f
        = m.assign f (row.projected (c.projection m.schema) ⟨table.1, f.column⟩) :=
    fun f hf => m.populateField_eq hrow (Criteria.mem_projection htable hf)
  rw [populate]
  -- Over the fields, which all have a column of the find.
  generalize (m.schema table.2).fields = fields at hfields
  induction fields with
  | nil => rfl
  | cons f fields ih =>
      show (m.populateField row (some table.1.text) f >>= fun _ => fields.forM _) = _
      rw [hfields f (by simp), ih fun g hg => hfields g (by simp [hg])]
      rfl

end Model

end DataAccess
