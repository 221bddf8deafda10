import DataAccess.Proofs.Mapping.Labels
import DataAccess.Proofs.Sql.Quoted
import DataAccess.Sql.Dialect
import Mathlib.Data.List.Induction

/-!
# `DataAccess.Proofs.Sql.FindLabels`: the labels in the text of a find

A find writes every column twice: as it is, and then in quotes, as the
label of its value. A column may have any characters. In quotes it cannot
break out, but as it is it may look like several columns with their labels.

* Where a label begins, it is read by the rule of the dialect, and what is
  left is the rest of the list (`Criteria.Legible.label`).
* The list of columns can be read from its end, where the last label ends:
  before that label its column has to stand, which then is as long as the
  label, and before that a comma or the beginning. So no two lists of
  columns have the same text (`Criteria.Legible.columns`).
* From left to right and with nothing else known, labels are found by what
  stands before them, ` AS ` and a quote. This needs that no column has
  that in it (`Criteria.Legible.labels`).

`Dialect.quote_legible` puts these together with the rule that they rest
on.
-/

set_option autoImplicit false

namespace DataAccess

namespace Dialect

variable (d : Dialect)

/-! ### A list of labels -/

/-- Every text but the first one comes after a comma. -/
theorem commas_cons (text : String) (after : List String) :
    commas (text :: after) = text ++ String.join (after.map (", " ++ ·)) := by
  induction after generalizing text with
  | nil =>
      rw [commas, String.intercalate_singleton]
      exact String.append_empty.symm
  | cons next after ih =>
      rw [commas, String.intercalate_cons_of_ne_nil (List.cons_ne_nil _ _), ← commas, ih next,
        List.map_cons, String.join_cons, String.append_assoc, String.append_assoc]

/-- One part of a list with commas between its parts, and what stands before
it and after it. -/
theorem commas_append_cons (before : List String) (text : String) (after : List String) :
    commas (before ++ text :: after)
      = String.join (before.map (· ++ ", ")) ++ (text ++ String.join (after.map (", " ++ ·))) := by
  induction before with
  | nil => exact (commas_cons text after).trans String.empty_append.symm
  | cons first before ih =>
      rw [List.cons_append, commas, String.intercalate_cons_of_ne_nil (by simp), ← commas, ih,
        List.map_cons, String.join_cons, String.append_assoc, String.append_assoc,
        String.append_assoc]

/-- The last column of a list is read from the end: first its label, and
then as many characters as this has. -/
theorem append_labelled_inj {s s' l l' : String}
    (h : s ++ d.labelled l = s' ++ d.labelled l') : s = s' ∧ l = l' := by
  have hsplit (s l : String) : (s ++ d.labelled l).toList
      = (s.toList ++ l.toList ++ " AS ".toList) ++ quoteChars d.quoteChar l.toList := by
    rw [labelled, String.toList_append, String.toList_append, String.toList_append, toList_quote]
    simp only [List.append_assoc]
  have hblank : some ' ' ≠ some d.quoteChar := by cases d <;> decide
  have hlast (cs : List Char) : (cs ++ " AS ".toList).getLast? ≠ some d.quoteChar := by
    rw [List.getLast?_append]
    exact hblank
  -- The label is between quotes, and what stands before it does not end in one.
  have hchars := congrArg String.toList h
  rw [hsplit, hsplit] at hchars
  obtain ⟨hbefore, hl⟩ := append_quoteChars_inj (hlast _) (hlast _) hchars
  obtain rfl := String.toList_inj.mp hl
  exact ⟨String.toList_inj.mp (List.append_cancel_right (List.append_cancel_right hbefore)), rfl⟩

/-- A column has its label at least. -/
theorem labelled_ne_empty (l : String) : d.labelled l ≠ "" := by
  simp [labelled]

/-- Columns with a comma after each of them. -/
private theorem join_labelled_inj {ls ls' : List String}
    (h : String.join (ls.map (d.labelled · ++ ", "))
      = String.join (ls'.map (d.labelled · ++ ", "))) : ls = ls' := by
  have hsnoc (ls : List String) (l : String) :
      String.join ((ls ++ [l]).map (d.labelled · ++ ", "))
        = String.join (ls.map (d.labelled · ++ ", ")) ++ d.labelled l ++ ", " := by
    simp [String.join_append, String.join_cons, String.append_assoc]
  induction ls using List.reverseRecOn generalizing ls' with
  | nil =>
      rcases List.eq_nil_or_concat' ls' with rfl | ⟨ls', l', rfl⟩
      · rfl
      · rw [hsnoc] at h
        simp at h
  | append_singleton ls l ih =>
      rcases List.eq_nil_or_concat' ls' with rfl | ⟨ls', l', rfl⟩
      · rw [hsnoc] at h
        simp at h
      · rw [hsnoc, hsnoc, String.append_left_inj] at h
        obtain ⟨hrest, rfl⟩ := d.append_labelled_inj h
        rw [ih hrest]

/-- Lists of labelled columns with the same text have the same labels, with
any characters in them. -/
theorem commas_labelled_inj {ls ls' : List String}
    (h : commas (ls.map d.labelled) = commas (ls'.map d.labelled)) : ls = ls' := by
  have hsnoc (ls : List String) (l : String) : commas ((ls ++ [l]).map d.labelled)
      = String.join (ls.map (d.labelled · ++ ", ")) ++ d.labelled l := by
    rw [List.map_append, List.map_singleton, commas_append_cons, List.map_map]
    exact congrArg _ String.append_empty
  have hne (s l : String) : s ++ d.labelled l ≠ commas [] := by
    simp [commas, d.labelled_ne_empty]
  -- Either list is empty, or it has a last column, which both texts end in.
  rcases List.eq_nil_or_concat' ls with rfl | ⟨ls, l, rfl⟩ <;>
    rcases List.eq_nil_or_concat' ls' with rfl | ⟨ls', l', rfl⟩
  · rfl
  · rw [hsnoc] at h
    exact absurd h.symm (hne _ _)
  · rw [hsnoc] at h
    exact absurd h (hne _ _)
  · rw [hsnoc, hsnoc] at h
    obtain ⟨hrest, rfl⟩ := d.append_labelled_inj h
    rw [d.join_labelled_inj hrest]

end Dialect

/-! ### Labels from left to right -/

section Labels

/-- What stands between a column and its label, with the quote that the
label begins with. -/
def labelOpening (q : Char) : List Char :=
  " AS ".toList ++ [q]

/-- The text after the first place where it says `mark`. -/
def afterFirst? (mark : List Char) : List Char → Option (List Char)
  | [] => none
  | c :: text =>
    if mark <+: c :: text then some ((c :: text).drop mark.length) else afterFirst? mark text

/-- A mark at the beginning is the first one. -/
theorem afterFirst?_append {mark : List Char} (hmark : mark ≠ []) (rest : List Char) :
    afterFirst? mark (mark ++ rest) = some rest := by
  obtain ⟨c, cs, rfl⟩ := List.exists_cons_of_ne_nil hmark
  rw [List.cons_append, afterFirst?, ← List.cons_append, if_pos (List.prefix_append _ _),
    List.drop_left]

/-- What is left after a mark is not longer than the text. -/
theorem length_of_afterFirst? {mark text rest : List Char}
    (h : afterFirst? mark text = some rest) : rest.length ≤ text.length := by
  fun_induction afterFirst? mark text with
  | case1 => cases h
  | case2 c text hmark =>
      obtain rfl := Option.some.inj h
      rw [List.length_drop]
      exact Nat.sub_le _ _
  | case3 c text hmark ih => exact Nat.le_succ_of_le (ih h)

/-- The next label of a text, and what comes after it. -/
def readLabel? (q : Char) (text : List Char) : Option (List Char × List Char) :=
  (afterFirst? (labelOpening q) text).bind (readQuotedRest? q)

/-- A label takes at least the quote that ends it, so that reading labels
comes to an end. -/
theorem length_of_readLabel? {q : Char} {text label after : List Char}
    (h : readLabel? q text = some (label, after)) : after.length < text.length := by
  obtain ⟨quoted, hquoted, hlabel⟩ := Option.bind_eq_some_iff.mp h
  have hle := length_of_afterFirst? hquoted
  rw [(eq_doubled_of_readQuotedRest? hlabel).1, List.length_append, List.length_cons] at hle
  omega

/-- The labels of a list of columns, up to one without a comma behind it. -/
def labelsFrom? (q : Char) (text : List Char) : Option (List (List Char)) :=
  match _hread : readLabel? q text with
  | none => none
  | some (label, ',' :: ' ' :: more) => (labelsFrom? q more).map (label :: ·)
  | some (label, _) => some [label]
termination_by text.length
decreasing_by
  have hmore := length_of_readLabel? _hread
  simp only [List.length_cons] at hmore
  omega

variable {q : Char}

/-- Between a column and its label no opening begins before the end of the
column: none has a beginning that is its end as well. -/
theorem not_opening_prefix (hq : q ≠ ' ' ∧ q ≠ 'A') {c : Char} {column : List Char}
    (h : ¬ labelOpening q <:+: c :: column) (rest : List Char) :
    ¬ labelOpening q <+: c :: column ++ labelOpening q ++ rest := by
  have hopening : labelOpening q = [' ', 'A', 'S', ' ', q] := rfl
  rw [hopening] at h ⊢
  intro hprefix
  -- The opening has five characters: up to four of them may be of the column.
  rcases column with _ | ⟨c₁, _ | ⟨c₂, _ | ⟨c₃, _ | ⟨c₄, column⟩⟩⟩⟩
  · simp at hprefix
  · simp at hprefix
  · simp [hq.2] at hprefix
  · simp [hq.1] at hprefix
  · refine h (List.IsPrefix.isInfix ?_)
    simpa using hprefix

/-- The first opening after a column is that of its label, if the column
has none in it. -/
theorem afterFirst?_opening (hq : q ≠ ' ' ∧ q ≠ 'A') {column : List Char}
    (h : ¬ labelOpening q <:+: column) (rest : List Char) :
    afterFirst? (labelOpening q) (column ++ labelOpening q ++ rest) = some rest := by
  induction column with
  | nil =>
      exact afterFirst?_append (List.cons_ne_nil _ _) rest
  | cons c column ih =>
      -- By induction on the column, of which no part begins an opening either.
      have hcolumn : ¬ labelOpening q <:+: column :=
        fun hin => h (hin.trans (List.suffix_cons c column).isInfix)
      have hhere := not_opening_prefix hq h rest
      simp only [List.cons_append] at hhere ⊢
      rw [afterFirst?, if_neg hhere, ih hcolumn]

/-- The text of columns with their labels, from the second one on. -/
def moreLabelled (q : Char) (columns : List (List Char)) : List Char :=
  columns.flatMap fun column => ", ".toList ++ column ++ " AS ".toList ++ quoteChars q column

/-- Columns after the first one come with a comma and a blank. -/
theorem moreLabelled_cons_append (column : List Char) (columns : List (List Char))
    (rest : List Char) :
    moreLabelled q (column :: columns) ++ rest
      = ',' :: ' ' :: (column ++ " AS ".toList ++ quoteChars q column
          ++ (moreLabelled q columns ++ rest)) := by
  simp [moreLabelled]

/-- Of a column and its label the label is read, and what follows is left. -/
theorem readLabel?_labelled (hq : q ≠ ' ' ∧ q ≠ 'A' ∧ q ≠ ',') {column : List Char}
    (h : ¬ labelOpening q <:+: column) {after : List Char} (hafter : after.head? ≠ some q) :
    readLabel? q (column ++ " AS ".toList ++ quoteChars q column ++ after)
      = some (column, after) := by
  have hopening : column ++ " AS ".toList ++ quoteChars q column ++ after
      = column ++ labelOpening q ++ (doubled q column ++ q :: after) := by
    rw [List.append_assoc _ (quoteChars q column), quoteChars_append]
    simp only [labelOpening, List.append_assoc, List.cons_append, List.nil_append]
  rw [hopening, readLabel?, afterFirst?_opening ⟨hq.1, hq.2.1⟩ h]
  exact readQuotedRest?_doubled hafter column

/-- After the last label there is no comma. -/
theorem labelsFrom?_last {text label after : List Char}
    (h : readLabel? q text = some (label, after)) (hafter : after.head? ≠ some ',') :
    labelsFrom? q text = some [label] := by
  rw [labelsFrom?]
  split <;> rename_i hread <;> cases h.symm.trans hread
  · exact absurd rfl hafter
  · rfl

/-- After any other one the list goes on. -/
theorem labelsFrom?_more {text label more : List Char}
    (h : readLabel? q text = some (label, ',' :: ' ' :: more)) :
    labelsFrom? q text = (labelsFrom? q more).map (label :: ·) := by
  rw [labelsFrom?]
  split
  · rename_i hread
    cases h.symm.trans hread
  · rename_i hread
    cases h.symm.trans hread
    rfl
  · rename_i hother hread
    cases h.symm.trans hread
    exact (hother _ rfl).elim

/-- The labels of a list are read in order, up to where it ends. -/
theorem labelsFrom?_labelled (hq : q ≠ ' ' ∧ q ≠ 'A' ∧ q ≠ ',') {rest : List Char}
    (hrest : rest.head? ≠ some q ∧ rest.head? ≠ some ',') {column : List Char}
    {columns : List (List Char)} (h : ∀ l ∈ column :: columns, ¬ labelOpening q <:+: l) :
    labelsFrom? q
        (column ++ " AS ".toList ++ quoteChars q column ++ (moreLabelled q columns ++ rest))
      = some (column :: columns) := by
  induction columns generalizing column with
  | nil =>
      obtain ⟨hcolumn, -⟩ := List.forall_mem_cons.mp h
      exact labelsFrom?_last (readLabel?_labelled hq hcolumn hrest.1) hrest.2
  | cons next columns ih =>
      -- The first label is read, and what is left begins with the next column.
      obtain ⟨hcolumn, hcolumns⟩ := List.forall_mem_cons.mp h
      have hcomma : (moreLabelled q (next :: columns) ++ rest).head? ≠ some q :=
        fun heq => hq.2.2 (Option.some.inj heq).symm
      have hread := readLabel?_labelled hq hcolumn hcomma
      rw [moreLabelled_cons_append] at hread ⊢
      rw [labelsFrom?_more hread, ih hcolumns]
      rfl

end Labels

namespace Dialect

variable {ι : Type} (d : Dialect)

/-- The labels of a find, read from left to right. -/
def labels? (text : String) : Option (List String) :=
  let list := text.toList.drop "SELECT ".length
  if list.head? = some ' ' then some []
  else (labelsFrom? d.quoteChar list).map (·.map String.ofList)

/-- No dialect has a quote that stands in an opening, or between two
columns. -/
theorem quoteChar_ne : d.quoteChar ≠ ' ' ∧ d.quoteChar ≠ 'A' ∧ d.quoteChar ≠ ',' := by
  cases d <;> decide

/-- A text that begins with another character does not begin with a quote. -/
theorem head?_ne {s : String} {c : Char} (hs : s.toList.head? = some c) (hc : d.quoteChar ≠ c)
    (rest : String) : (s ++ rest).toList.head? ≠ some d.quoteChar := by
  rw [String.toList_append, List.head?_append, hs]
  exact fun heq => hc (Option.some.inj heq).symm

/-- A find lists its columns before its table. -/
theorem text_find (rows : Selection) (columns : List ColumnRef) :
    d.text (.find rows columns)
      = "SELECT " ++ commas ((columns.map (·.text)).map d.labelled)
        ++ " FROM " ++ d.source rows := by
  rw [List.map_map]
  rfl

/-- The characters of a list of columns, the first one and then the others. -/
theorem toList_commas_labelled (l : String) (ls : List String) :
    (commas ((l :: ls).map d.labelled)).toList
      = l.toList ++ " AS ".toList ++ quoteChars d.quoteChar l.toList
        ++ moreLabelled d.quoteChar (ls.map String.toList) := by
  rw [List.map_cons, commas_cons, String.toList_append, labelled, String.toList_append,
    String.toList_append, toList_quote, String.toList_join, moreLabelled, List.flatMap_map,
    List.flatMap_map, List.flatMap_map]
  congr 1
  refine List.flatMap_congr fun l _ => ?_
  rw [labelled, String.toList_append, String.toList_append, String.toList_append, toList_quote,
    List.append_assoc, List.append_assoc, List.append_assoc]

/-- Every label begins with a `t`, as every alias does. -/
theorem exists_toList_text (ref : ColumnRef) : ∃ cs, ref.text.toList = 't' :: cs := by
  rw [ColumnRef.text, String.toList_append, String.toList_append]
  by_cases h : ref.table.steps = []
  · have hmain : ref.table.text = "t_main" := by simp [Alias.text, h]
    rw [hmain]
    exact ⟨_, rfl⟩
  · rw [Alias.toList_text h]
    exact ⟨_, rfl⟩

/-- The labels are read from the text of a find. -/
theorem labels?_find {rows : Selection} {columns : List ColumnRef}
    (h : ∀ ref ∈ columns, ¬ labelOpening d.quoteChar <:+: ref.text.toList) :
    d.labels? (d.text (.find rows columns)) = some (columns.map (·.text)) := by
  -- What comes after the first word is the list of columns, and the table.
  have hlist : (d.text (.find rows columns)).toList.drop "SELECT ".length
      = (commas ((columns.map (·.text)).map d.labelled)).toList
        ++ (" FROM ".toList ++ (d.source rows).toList) := by
    rw [text_find, String.toList_append, String.toList_append, String.toList_append,
      List.append_assoc, List.append_assoc]
    rfl
  rw [labels?, hlist]
  cases columns with
  | nil => rfl
  | cons ref columns =>
      obtain ⟨cs, hcs⟩ := exists_toList_text ref
      have hend : (" FROM ".toList ++ (d.source rows).toList).head? ≠ some d.quoteChar :=
        fun heq => d.quoteChar_ne.1 (Option.some.inj heq).symm
      have hlabels : ∀ l ∈ ref.text.toList :: (columns.map (·.text)).map String.toList,
          ¬ labelOpening d.quoteChar <:+: l := by simpa using h
      have hread := labelsFrom?_labelled d.quoteChar_ne ⟨hend, nofun⟩ hlabels
      -- A list that begins with a letter is not an empty one.
      have hletter (rest : List Char) : (ref.text.toList ++ rest).head? ≠ some ' ' := by
        rw [hcs]
        exact fun heq => absurd (Option.some.inj heq) (by decide)
      rw [List.map_cons, toList_commas_labelled, List.append_assoc, hread]
      simp only [List.append_assoc, if_neg (hletter _), Option.map_some, List.map_cons,
        List.map_map, Function.comp_def, String.ofList_toList]

/-- Finds of the same rows have the same text only if they read the same
columns. -/
theorem text_find_inj {rows : Selection} {columns columns' : List ColumnRef} :
    d.text (.find rows columns) = d.text (.find rows columns') ↔ columns = columns' := by
  refine ⟨fun h => ?_, fun h => h ▸ rfl⟩
  rw [text_find, text_find, String.append_left_inj, String.append_left_inj,
    String.append_right_inj] at h
  exact List.map_injective_iff.mpr (fun _ _ => ColumnRef.text_inj.mp) (d.commas_labelled_inj h)

end Dialect

/-! ### What a find tells -/

/-- What can be read from the text of a find, whatever characters are in its
names. -/
structure Criteria.Legible {ι : Type} (d : Dialect) (schema : Schema ι) (c : Criteria ι) :
    Prop where
  /-- The label of a column stands behind it, in quotes, and is read up to
  where the list goes on. -/
  label : ∀ before ref after, c.projection schema = before ++ ref :: after →
    let rest := String.join (after.map fun next => ", " ++ d.labelled next.text)
      ++ " FROM " ++ d.source (c.selection schema)
    (d.sql (c.find schema)).text
        = "SELECT " ++ String.join (before.map fun past => d.labelled past.text ++ ", ")
          ++ ref.text ++ " AS " ++ (d.quote ref.text ++ rest) ∧
      d.unquote? (d.quote ref.text ++ rest) = some (ref.text, rest)
  /-- No other columns of the same rows are read by the same text. -/
  columns : ∀ columns,
    d.text (.find (c.selection schema) columns) = (d.sql (c.find schema)).text
      ↔ columns = c.projection schema
  /-- All labels are read from the text alone, unless one of them has in it
  what stands before a label. -/
  labels : (∀ ref ∈ c.projection schema, ¬ labelOpening d.quoteChar <:+: ref.text.toList) →
    d.labels? (d.sql (c.find schema)).text = some ((c.projection schema).map (·.text))
  /-- Behind the columns the table of the root is read. -/
  table : d.unquote? (d.source (c.selection schema))
    = some ((schema c.root).table, " t_main" ++ d.clauses (c.selection schema))

namespace Dialect

variable {ι : Type} (d : Dialect)

/-- Every part of a find can be told from its text. -/
theorem legible (schema : Schema ι) (c : Criteria ι) : c.Legible d schema where
  label before ref after hsplit := by
    intro rest
    refine ⟨?_, d.unquote?_eq_some_iff.mpr ⟨rfl, ?_⟩⟩
    -- The text is cut around the label of one column.
    · have hcolumns : (c.projection schema).map (fun ref => d.labelled ref.text)
          = before.map (fun past => d.labelled past.text) ++ d.labelled ref.text
            :: after.map fun next => d.labelled next.text := by
        rw [hsplit, List.map_append, List.map_cons]
      show "SELECT " ++ commas ((c.projection schema).map fun ref => d.labelled ref.text)
        ++ " FROM " ++ d.source (c.selection schema) = _
      rw [hcolumns, commas_append_cons, labelled, List.map_map, List.map_map]
      simp only [String.append_assoc, Function.comp_def, rest]
    · -- After a label there is a blank or a comma.
      cases after with
      | nil =>
          have hrest : rest = " FROM " ++ d.source (c.selection schema) := by
            simp only [rest, List.map_nil, String.join_nil, String.empty_append]
          rw [hrest]
          exact d.head?_ne rfl d.quoteChar_ne.1 _
      | cons next after =>
          have hrest : rest = ", " ++ (d.labelled next.text
              ++ (String.join (after.map fun next => ", " ++ d.labelled next.text)
                ++ (" FROM " ++ d.source (c.selection schema)))) := by
            simp only [rest, List.map_cons, String.join_cons, String.append_assoc]
          rw [hrest]
          exact d.head?_ne rfl d.quoteChar_ne.2.2 _
  columns columns := d.text_find_inj
  labels h := d.labels?_find h
  table := by
    refine d.unquote?_eq_some_iff.mpr ⟨?_, ?_⟩
    · rw [source, rootTable]
      simp only [String.append_assoc]
      rfl
    · exact d.head?_ne rfl d.quoteChar_ne.1 _

/-- A text is read as a name in the quotes of a dialect just if it is that
name, quoted, and no quote comes next; what comes next is left. So no two
names are quoted alike, and the labels of a find can be read from its
text. -/
theorem quote_legible (d : Dialect) (schema : Schema ι) (c : Criteria ι) :
    (∀ text name after : String, d.unquote? text = some (name, after)
      ↔ text = d.quote name ++ after ∧ after.toList.head? ≠ some d.quoteChar) ∧
    Function.Injective d.quote ∧ c.Legible d schema :=
  ⟨fun _ _ _ => d.unquote?_eq_some_iff, d.quote_injective, d.legible schema c⟩

/-- Screens, which have quotes in names: at an end, at both, and nothing
else. -/
def screens : Schema Unit := fun _ =>
  { typeName := "Screen", table := "15\""
    fields := [⟨"id", "id", .bigInt, true⟩, ⟨"width", "\"width\"", .integer, false⟩,
      ⟨"unit", "\"", .text, false⟩]
    relations := [], dependents := [] }

/-- The name of the table is read, and the labels are. -/
theorem quote_legible_screens :
    let c : Criteria Unit := .new ()
    let labels := ["t_main.id", "t_main.\"width\"", "t_main.\""]
    (Dialect.sql .sqlite (c.find screens)).text
        = "SELECT t_main.id AS \"t_main.id\", t_main.\"width\" AS \"t_main.\"\"width\"\"\", "
          ++ "t_main.\" AS \"t_main.\"\"\" FROM \"15\"\"\" t_main" ∧
      (∀ label ∈ labels, ¬ labelOpening (Dialect.quoteChar .sqlite) <:+: label.toList) ∧
      Dialect.labels? .sqlite (Dialect.sql .sqlite (c.find screens)).text = some labels ∧
      " t_main".toList.head? ≠ some (Dialect.quoteChar .sqlite) ∧
      Dialect.unquote? .sqlite "\"15\"\"\" t_main" = some ("15\"", " t_main") := by
  intro c labels
  have hlabels : ∀ label ∈ labels,
      ¬ labelOpening (Dialect.quoteChar .sqlite) <:+: label.toList := by decide +kernel
  have htable : " t_main".toList.head? ≠ some (Dialect.quoteChar .sqlite) := by decide
  obtain ⟨hread, -, hfind⟩ := quote_legible .sqlite screens c
  -- The columns of the schema, with quotes in two of them.
  have hprojection : (c.projection screens).map (·.text) = labels := by decide +kernel
  have hopenings : ∀ ref ∈ c.projection screens,
      ¬ labelOpening (Dialect.quoteChar .sqlite) <:+: ref.text.toList :=
    fun ref href => hlabels ref.text (hprojection ▸ List.mem_map_of_mem href)
  refine ⟨by decide +kernel, hlabels, ?_, htable, (hread _ _ _).mpr ⟨by decide +kernel, htable⟩⟩
  rw [hfind.labels hopenings, hprojection]

end Dialect

end DataAccess
