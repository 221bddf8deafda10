import DataAccess.Proofs.Criteria.Template
import DataAccess.Sql.Dialect

/-!
# `DataAccess.Proofs.Sql.Filled`: texts that know their values

A `Filled` text carries at every placeholder the value that was meant
for it when the text was put together. `Filled.Synchronized` says that a
database sees it the same way: its placeholders are just the characters
that carry a value, and it leaves no literal open, so that what comes
after it is read as if it stood alone. Synchronized texts can be put
together (`Synchronized.append`, `Synchronized.commas`), and one that is
synchronized is filled with its own values (`Synchronized.fill_eq`).

Most of a statement carries no value. `Plain` texts have neither
question marks nor quotes; `Silent` ones may have quotes as long as they
are paired, as those of a quoted name are (`silent_quote`).
-/

set_option autoImplicit false

namespace DataAccess

open Template (marks literalAfter fill)

/-- A text with the values of its placeholders in their places. -/
abbrev Filled := List (Char × Option Value)

namespace Filled

/-- The text alone. -/
def text (m : Filled) : String :=
  String.ofList (m.map Prod.fst)

/-- The values alone, in order. -/
def values (m : Filled) : List Value :=
  m.filterMap Prod.snd

/-- A text without values. -/
def plain (s : String) : Filled :=
  s.toList.map (·, none)

/-- A placeholder with its value, if there is one. -/
def mark (value? : Option Value) : Filled :=
  [('?', value?)]

/-- Texts with commas between them. -/
def commas : List Filled → Filled
  | [] => []
  | [m] => m
  | m :: n :: ms => m ++ plain ", " ++ commas (n :: ms)

/-- The placeholders of the text are the characters with values, and no
literal is open at its end. -/
structure Synchronized (m : Filled) : Prop where
  marks_eq : marks none (m.map Prod.fst) = m.map (·.2.isSome)
  closed : literalAfter none (m.map Prod.fst) = none

/-- No parts have no text. -/
@[simp] theorem text_nil : text [] = "" := rfl

/-- The text of two parts is that of each, one after the other. -/
@[simp] theorem text_append (m n : Filled) : (m ++ n).text = m.text ++ n.text := by
  simp [text]

/-- A plain part is written as it is. -/
@[simp] theorem text_plain (s : String) : (plain s).text = s := by
  simp [text, plain, Function.comp_def]

/-- A place is written as a placeholder. -/
@[simp] theorem text_mark (value? : Option Value) : (mark value?).text = "?" := rfl

/-- A template that is filled keeps its text. -/
@[simp] theorem text_fill (open? : Option Char) (s : String) (values : List Value) :
    text (fill open? s.toList values) = s := by
  rw [text, Template.map_fst_fill, String.ofList_toList]

/-- Parts with commas between them are texts with commas between them. -/
@[simp] theorem text_commas (ms : List Filled) :
    (commas ms).text = Dialect.commas (ms.map text) := by
  induction ms with
  | nil => rfl
  | cons m ms ih =>
      cases ms with
      | nil => exact String.intercalate_singleton.symm
      | cons n ms =>
          rw [commas, text_append, text_append, text_plain, ih]
          exact String.intercalate_cons_cons.symm

/-- No parts have no values. -/
@[simp] theorem values_nil : values [] = [] := rfl

/-- The values of two parts are those of each, one after the other. -/
@[simp] theorem values_append (m n : Filled) : (m ++ n).values = m.values ++ n.values := by
  simp [values]

/-- A plain part has no values. -/
@[simp] theorem values_plain (s : String) : (plain s).values = [] := by
  simp [values, plain]

/-- A place has its value. -/
@[simp] theorem values_mark (v : Value) : (mark (some v)).values = [v] := rfl

/-- Commas have no values. -/
@[simp] theorem values_commas (ms : List Filled) :
    (commas ms).values = ms.flatMap values := by
  induction ms with
  | nil => rfl
  | cons m ms ih =>
      cases ms with
      | nil => simp [commas]
      | cons n ms =>
          rw [commas, values_append, values_append, values_plain, List.append_nil, ih]
          exact List.flatMap_cons.symm

/-- Places with commas between them have their values in order. -/
theorem values_commas_mark {α : Type} (f : α → Value) (xs : List α) :
    (commas (xs.map fun x => mark (some (f x)))).values = xs.map f := by
  rw [values_commas, List.flatMap_map]
  induction xs with
  | nil => rfl
  | cons x xs ih =>
      rw [List.flatMap_cons, ih]
      rfl

/-- A plain text is made of its characters. -/
theorem map_fst_plain (s : String) : (plain s).map Prod.fst = s.toList := by
  simp [plain, Function.comp_def]

/-! ### Synchronized texts -/

/-- Nothing has no places and no values. -/
theorem synchronized_nil : Synchronized [] := ⟨rfl, rfl⟩

/-- A place has its value. -/
theorem synchronized_mark (v : Value) : Synchronized (mark (some v)) := ⟨rfl, rfl⟩

/-- The second text is read as if it stood alone, since the first one
leaves no literal open. -/
theorem Synchronized.append {m n : Filled} (hm : Synchronized m) (hn : Synchronized n) :
    Synchronized (m ++ n) where
  marks_eq := by
    rw [List.map_append, Template.marks_append, hm.closed, hm.marks_eq, hn.marks_eq,
      List.map_append]
  closed := by
    rw [List.map_append, Template.literalAfter_append, hm.closed, hn.closed]

/-- Parts that are synchronized are so together, one after another. -/
theorem synchronized_flatMap {α : Type} {f : α → Filled} {xs : List α}
    (h : ∀ x ∈ xs, Synchronized (f x)) : Synchronized (xs.flatMap f) := by
  induction xs with
  | nil => exact synchronized_nil
  | cons x xs ih =>
      rw [List.flatMap_cons]
      exact (h x (by simp)).append (ih fun y hy => h y (by simp [hy]))

/-- Also with commas between them, in which there are no places. -/
theorem Synchronized.commas {ms : List Filled} (hms : ∀ m ∈ ms, Synchronized m) :
    Synchronized (commas ms) := by
  induction ms with
  | nil => exact synchronized_nil
  | cons m ms ih =>
      have hm := hms m (by simp)
      cases ms with
      | nil => exact hm
      | cons n ms =>
          -- By induction on the parts: all but the last one have a comma after them.
          have hcomma : Synchronized (plain ", ") := ⟨by decide, by decide⟩
          exact (hm.append hcomma).append (ih fun k hk => hms k (by simp [hk]))

/-- With as many values as placeholders, a text of which no literal
stays open is synchronized. -/
theorem synchronized_fill {cs : List Char} {values : List Value}
    (hcount : (marks none cs).count true = values.length)
    (hclosed : literalAfter none cs = none) : Synchronized (fill none cs values) where
  marks_eq := by rw [Template.map_fst_fill, Template.map_isSome_fill hcount]
  closed := by rw [Template.map_fst_fill, hclosed]

/-- A database fills a synchronized text with the values that were meant
for it. -/
theorem Synchronized.fill_eq {m : Filled} (h : Synchronized m) :
    fill none m.text.toList m.values = m := by
  rw [text, String.toList_ofList]
  exact Template.fill_eq h.marks_eq

/-- There are as many placeholders as values. -/
theorem Synchronized.placeholders_eq {m : Filled} (h : Synchronized m) :
    Template.placeholders m.text = m.values.length := by
  -- Whether a character is a placeholder is whether it carries a value.
  have hcount : ∀ n : Filled, (n.map (·.2.isSome)).count true = n.values.length := by
    intro n
    induction n with
    | nil => rfl
    | cons x n ih =>
        obtain ⟨c, value?⟩ := x
        cases value? <;> simp_all [values]
  rw [Template.placeholders, Template.placeholdersFrom_eq_count, text, String.toList_ofList,
    h.marks_eq, hcount]

end Filled

/-! ### Texts without values -/

/-- The text has neither question marks nor quotes. -/
def Plain (s : String) : Prop :=
  ∀ c ∈ s.toList, c ≠ '?' ∧ Template.isQuote c = false

instance (s : String) : Decidable (Plain s) :=
  List.decidableBAll (fun c => c ≠ '?' ∧ Template.isQuote c = false) s.toList

/-- The text has no placeholders, and leaves no literal open. -/
def Silent (s : String) : Prop :=
  (Filled.plain s).Synchronized

/-- What texts have together if each has it is kept by joining them. -/
theorem intercalate_of_append {P : String → Prop} (hempty : P "")
    (happend : ∀ {s t : String}, P s → P t → P (s ++ t)) {s : String} {ts : List String}
    (hs : P s) (hts : ∀ t ∈ ts, P t) : P (s.intercalate ts) := by
  induction ts with
  | nil => exact hempty
  | cons t ts ih =>
      have ht := hts t (by simp)
      -- The last text has none after it.
      by_cases hne : ts = []
      · rw [hne, String.intercalate_singleton]
        exact ht
      · rw [String.intercalate_cons_of_ne_nil hne]
        exact happend (happend ht hs) (ih fun u hu => hts u (by simp [hu]))

/-- Plain texts are plain together. -/
theorem Plain.append {s t : String} (hs : Plain s) (ht : Plain t) : Plain (s ++ t) := by
  intro c hc
  rw [String.toList_append, List.mem_append] at hc
  exact hc.elim (hs c) (ht c)

/-- Plain texts are plain together with a plain text between them. -/
theorem Plain.intercalate {s : String} {ts : List String} (hs : Plain s)
    (hts : ∀ t ∈ ts, Plain t) : Plain (s.intercalate ts) :=
  intercalate_of_append (by decide) Plain.append hs hts

/-- Outside of a literal a plain text changes nothing. -/
theorem Plain.silent {s : String} (hs : Plain s) : Silent s := by
  suffices h : ∀ cs : List Char, (∀ c ∈ cs, c ≠ '?' ∧ Template.isQuote c = false) →
      Filled.Synchronized (cs.map (·, none)) from h s.toList hs
  intro cs hcs
  induction cs with
  | nil => exact Filled.synchronized_nil
  | cons c cs ih =>
      -- The character is no placeholder and opens no literal.
      have hc : Filled.Synchronized [(c, none)] := by
        obtain ⟨hmark, hquote⟩ := hcs c (by simp)
        constructor
        · simp [marks, Template.isMark, hmark]
        · simp [literalAfter, Template.literalStep, hquote]
      exact hc.append (ih fun d hd => hcs d (by simp [hd]))

/-- Silent texts are silent together: a literal that is open after the
first one would go on in the second one. -/
theorem Silent.append {s t : String} (hs : Silent s) (ht : Silent t) : Silent (s ++ t) := by
  have h := Filled.Synchronized.append hs ht
  rwa [Filled.plain, Filled.plain, ← List.map_append, ← String.toList_append] at h

/-- Silent texts are silent together with a silent text between them. -/
theorem Silent.intercalate {s : String} {ts : List String} (hs : Silent s)
    (hts : ∀ t ∈ ts, Silent t) : Silent (s.intercalate ts) :=
  intercalate_of_append Filled.synchronized_nil Silent.append hs hts

/-- Silent texts that are put together are silent. -/
theorem silent_join {ts : List String} (hts : ∀ t ∈ ts, Silent t) :
    Silent (String.join ts) := by
  induction ts with
  | nil => exact Filled.synchronized_nil
  | cons t ts ih =>
      rw [String.join_cons]
      exact (hts t (by simp)).append (ih fun u hu => hts u (by simp [hu]))

/-- In a literal nothing counts up to the quote that closes it. -/
private theorem marks_literal {q : Char} {cs : List Char} (hq : q ∉ cs) :
    marks (some q) (cs ++ [q]) = (cs ++ [q]).map (fun _ => false) ∧
      literalAfter (some q) (cs ++ [q]) = none := by
  induction cs with
  | nil => simp [marks, Template.isMark, literalAfter, Template.literalStep]
  | cons c cs ih =>
      -- A character that is not the quote leaves the literal open.
      obtain ⟨hc, hcs⟩ := not_or.mp fun h => hq (List.mem_cons.mpr h)
      obtain ⟨hmarks, hliteral⟩ := ih hcs
      have hstep : Template.literalStep (some q) c = some q := by
        simp [Template.literalStep, Ne.symm hc]
      constructor
      · rw [List.cons_append, marks, hstep, hmarks]
        rfl
      · rw [← hliteral, List.cons_append, literalAfter, List.foldl_cons, hstep]
        rfl

/-- Quoting changes nothing about a name without quotes. -/
private theorem quoteChars_eq {q : Char} {name : List Char} (hq : q ∉ name) :
    quoteChars q name = q :: name ++ [q] := by
  have hname : name.flatMap (fun c => if c = q then [q, q] else [c]) = name := by
    induction name with
    | nil => rfl
    | cons c name ih =>
        obtain ⟨hc, hname⟩ := not_or.mp fun h => hq (List.mem_cons.mpr h)
        rw [List.flatMap_cons, if_neg (Ne.symm hc), ih hname]
        rfl
  rw [quoteChars, hname]

/-- A quoted name is a literal for SQLite, and nothing of the kind for
MySQL. -/
theorem silent_quote (d : Dialect) {name : String} (h : Plain name) : Silent (d.quote name) := by
  cases d with
  | mysql =>
      -- A backtick opens no literal, so the quoted name is as plain as the name.
      refine Plain.silent fun c hc => ?_
      rw [Dialect.quote, String.toList_ofList, quoteChars] at hc
      simp only [List.cons_append, List.mem_cons, List.mem_append, List.mem_flatMap,
        List.not_mem_nil, or_false] at hc
      rcases hc with rfl | ⟨e, he, hc⟩ | rfl
      · exact (by decide)
      · split at hc
        · simp only [List.mem_cons, List.not_mem_nil, or_false, or_self] at hc
          exact hc ▸ (by decide)
        · exact List.mem_singleton.mp hc ▸ h e he
      · exact (by decide)
  | sqlite =>
      -- The first quote opens a literal and the last one closes it.
      have hq : '"' ∉ name.toList := fun hmem => absurd (h _ hmem).2 (by decide)
      obtain ⟨hmarks, hliteral⟩ := marks_literal hq
      have hquote : (Dialect.quote .sqlite name).toList = '"' :: (name.toList ++ ['"']) := by
        rw [Dialect.quote, String.toList_ofList]
        exact quoteChars_eq hq
      constructor
      · rw [Filled.map_fst_plain, hquote, Filled.plain, List.map_map, hquote]
        show false :: marks (some '"') (name.toList ++ ['"']) = _
        rw [hmarks]
        rfl
      · rw [Filled.map_fst_plain, hquote]
        exact hliteral

end DataAccess
