import DataAccess.Criteria.Template
import DataAccess.Value.Basic

/-!
# `DataAccess.Proofs.Criteria.Template`: the placeholders of a text

Where the placeholders of a text are depends on the literals in it.
`literalStep` is what one character does to the literal that is open,
and `marks` says of every character whether it is a placeholder;
`Template.placeholders` counts them (`placeholdersFrom_eq_count`). Both
go through a text from left to right, so that two texts one after the
other are read as one after the other (`marks_append`,
`literalAfter_append`), if the first one leaves no literal open.

`fill` is what a database makes of a text and a list of values: every
placeholder takes the next value.
-/

set_option autoImplicit false

namespace DataAccess.Template

/-- The quote of the literal that is open after the character `c`. -/
def literalStep (open? : Option Char) (c : Char) : Option Char :=
  match open? with
  | some quote => if c = quote then none else some quote
  | none => if isQuote c then some c else none

/-- The character `c` is a placeholder. -/
def isMark (open? : Option Char) (c : Char) : Bool :=
  open?.isNone && c == '?'

/-- The quote of the literal that a text leaves open. -/
def literalAfter (open? : Option Char) (cs : List Char) : Option Char :=
  cs.foldl literalStep open?

/-- Which characters of a text are placeholders. -/
def marks (open? : Option Char) : List Char → List Bool
  | [] => []
  | c :: rest => isMark open? c :: marks (literalStep open? c) rest

/-- The characters of a text, each placeholder with the value it takes,
which is the next one of the values. -/
def fill (open? : Option Char) : List Char → List Value → List (Char × Option Value)
  | [], _ => []
  | c :: rest, values =>
    if isMark open? c then
      (c, values.head?) :: fill (literalStep open? c) rest values.tail
    else (c, none) :: fill (literalStep open? c) rest values

/-- The placeholders are the marks of the text. -/
theorem placeholdersFrom_eq_count (open? : Option Char) (cs : List Char) :
    placeholdersFrom open? cs = (marks open? cs).count true := by
  induction cs generalizing open? with
  | nil => rfl
  | cons c rest ih =>
      cases open? with
      | some quote => simp [placeholdersFrom, marks, isMark, literalStep, ih]
      | none =>
          by_cases hq : isQuote c
          · -- A quote opens a literal, and is no placeholder itself.
            have hmark : c ≠ '?' := by
              rintro rfl
              exact absurd hq (by decide)
            simp [placeholdersFrom, marks, isMark, literalStep, ih, hq, hmark]
          · by_cases hmark : c = '?'
            · subst hmark
              simp [placeholdersFrom, marks, isMark, literalStep, ih, hq]
            · simp [placeholdersFrom, marks, isMark, literalStep, ih, hq, hmark]

/-- Which literal is open after a text depends on its parts in turn. -/
theorem literalAfter_append (open? : Option Char) (xs ys : List Char) :
    literalAfter open? (xs ++ ys) = literalAfter (literalAfter open? xs) ys :=
  List.foldl_append

/-- The second part of a text is marked from where the first one ends. -/
theorem marks_append (open? : Option Char) (xs ys : List Char) :
    marks open? (xs ++ ys) = marks open? xs ++ marks (literalAfter open? xs) ys := by
  induction xs generalizing open? with
  | nil => rfl
  | cons x xs ih =>
      rw [List.cons_append, marks, ih]
      rfl

/-! ### Filled texts -/

/-- Filling a text does not change its characters. -/
theorem map_fst_fill (open? : Option Char) (cs : List Char) (values : List Value) :
    (fill open? cs values).map Prod.fst = cs := by
  induction cs generalizing open? values with
  | nil => rfl
  | cons c rest ih =>
      rw [fill]
      split <;> rw [List.map_cons, ih]

/-- A text with as many values as placeholders ends when they do: every
placeholder takes a value, and no other character does. -/
theorem counted_induction {P : Option Char → List Char → List Value → Prop}
    (nil : ∀ open?, P open? [] [])
    (mark : ∀ open? c rest v values, isMark open? c = true →
      P (literalStep open? c) rest values → P open? (c :: rest) (v :: values))
    (other : ∀ open? c rest values, isMark open? c = false →
      P (literalStep open? c) rest values → P open? (c :: rest) values)
    {open? : Option Char} {cs : List Char} {values : List Value}
    (h : (marks open? cs).count true = values.length) : P open? cs values := by
  induction cs generalizing open? values with
  | nil =>
      rw [List.length_eq_zero_iff.mp h.symm]
      exact nil open?
  | cons c rest ih =>
      -- A mark takes one placeholder and one value away, anything else neither.
      rw [marks] at h
      cases hmark : isMark open? c with
      | true =>
          rw [hmark, List.count_cons_self] at h
          cases values with
          | nil => exact absurd h (Nat.succ_ne_zero _)
          | cons v values => exact mark open? c rest v values hmark (ih (Nat.succ.inj h))
      | false =>
          rw [hmark, List.count_cons_of_ne (by decide)] at h
          exact other open? c rest values hmark (ih h)

/-- With as many values as placeholders, every placeholder takes one. -/
theorem map_isSome_fill {open? : Option Char} {cs : List Char} {values : List Value}
    (h : (marks open? cs).count true = values.length) :
    (fill open? cs values).map (·.2.isSome) = marks open? cs := by
  refine counted_induction
    (P := fun open? cs values => (fill open? cs values).map (·.2.isSome) = marks open? cs)
    (fun open? => rfl) (fun open? c rest v values hmark ih => ?_)
    (fun open? c rest values hmark ih => ?_) h
  · simp [fill, marks, hmark, ih]
  · simp [fill, marks, hmark, ih]

/-- With as many values as placeholders, every value is taken, in
order. -/
theorem filterMap_snd_fill {open? : Option Char} {cs : List Char} {values : List Value}
    (h : (marks open? cs).count true = values.length) :
    (fill open? cs values).filterMap Prod.snd = values := by
  refine counted_induction
    (P := fun open? cs values => (fill open? cs values).filterMap Prod.snd = values)
    (fun open? => rfl) (fun open? c rest v values hmark ih => ?_)
    (fun open? c rest values hmark ih => ?_) h
  · simp [fill, hmark, ih]
  · simp [fill, hmark, ih]

/-- A text whose placeholders are just those characters that have a
value is filled with these values. -/
theorem fill_eq {open? : Option Char} {m : List (Char × Option Value)}
    (h : marks open? (m.map Prod.fst) = m.map (·.2.isSome)) :
    fill open? (m.map Prod.fst) (m.filterMap Prod.snd) = m := by
  induction m generalizing open? with
  | nil => rfl
  | cons x m ih =>
      obtain ⟨c, value?⟩ := x
      -- The first character has a value just if it is a placeholder.
      rw [List.map_cons, marks, List.map_cons, List.cons.injEq] at h
      rw [List.map_cons, fill]
      cases value? with
      | none => simp [h.1, ih h.2]
      | some v => simp [h.1, ih h.2]

end DataAccess.Template
