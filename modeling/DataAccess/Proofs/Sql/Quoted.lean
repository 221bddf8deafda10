import DataAccess.Sql.Identifier
import Mathlib.Data.List.Basic

/-!
# `DataAccess.Proofs.Sql.Quoted`: names in quotes are read back

A name is quoted by doubling each quote in it. To read it, two quotes in a
row are taken for one of the name, and the first one that stands alone for
the end. A name may begin with quotes, end with quotes, or be nothing but
quotes; what tells its last quotes from the one that ends it is the next
character, and so the only thing that must not follow a quoted name is one
more quote.

`readQuoted?_eq_some_iff` says this in both directions: a name is read
just from its quoted form, and what is left is just the text behind it.
A text begins with one quoted name at most (`quoteChars_append_inj`), and
as a quoted name is also one from behind (`reverse_quoteChars`), a text
ends with one at most (`append_quoteChars_inj`).

`Dialect.unquote?` reads a name in the quotes of a dialect.
-/

set_option autoImplicit false

namespace DataAccess

/-! ### From the front -/

section Quoted
variable {q : Char} {name name' after after' text : List Char}

/-- The characters of a name, each quote twice. -/
def doubled (q : Char) (name : List Char) : List Char :=
  name.flatMap fun c => if c = q then [q, q] else [c]

/-- Doubling goes character by character. -/
theorem doubled_cons (c : Char) (name : List Char) :
    doubled q (c :: name) = (if c = q then [q, q] else [c]) ++ doubled q name :=
  List.flatMap_cons

/-- A quoted name and what comes after it, as a text. -/
theorem quoteChars_append (q : Char) (name after : List Char) :
    quoteChars q name ++ after = q :: (doubled q name ++ q :: after) := by
  simp [quoteChars, doubled]

/-- A character that is no quote belongs to the name. -/
theorem readQuotedRest?_of_ne {c : Char} (hc : c ≠ q) (text : List Char) :
    readQuotedRest? q (c :: text)
      = (readQuotedRest? q text).map fun (name, after) => (c :: name, after) := by
  cases text with
  | nil => simp [readQuotedRest?, hc]
  | cons d text => rw [readQuotedRest?, if_neg hc]

/-- Two quotes stand for one. -/
theorem readQuotedRest?_twice (q : Char) (text : List Char) :
    readQuotedRest? q (q :: q :: text)
      = (readQuotedRest? q text).map fun (name, after) => (q :: name, after) := by
  rw [readQuotedRest?, if_pos rfl, if_pos rfl]

/-- A quote without another one behind it ends the name. -/
theorem readQuotedRest?_once (h : after.head? ≠ some q) :
    readQuotedRest? q (q :: after) = some ([], after) := by
  cases after with
  | nil => rw [readQuotedRest?, if_pos rfl]
  | cons d after =>
      have hd : d ≠ q := fun hd => h (congrArg some hd)
      rw [readQuotedRest?, if_pos rfl, if_neg hd]

/-- A name whose quotes are doubled is read up to the single quote after
it. -/
theorem readQuotedRest?_doubled (h : after.head? ≠ some q) (name : List Char) :
    readQuotedRest? q (doubled q name ++ q :: after) = some (name, after) := by
  induction name with
  | nil => exact readQuotedRest?_once h
  | cons c name ih =>
      rw [doubled_cons]
      -- A quote in the name was written twice, and is read once.
      by_cases hc : c = q
      · rw [if_pos hc]
        show readQuotedRest? q (q :: q :: (doubled q name ++ q :: after)) = _
        rw [readQuotedRest?_twice, ih, hc]
        rfl
      · rw [if_neg hc]
        show readQuotedRest? q (c :: (doubled q name ++ q :: after)) = _
        rw [readQuotedRest?_of_ne hc, ih]
        rfl

/-- Only a name in quotes is read as one. -/
theorem eq_doubled_of_readQuotedRest? (h : readQuotedRest? q text = some (name, after)) :
    text = doubled q name ++ q :: after ∧ after.head? ≠ some q := by
  -- A single quote ends the name, at the end of the text or before another
  -- character; a double one, and any other character, belongs to it.
  fun_induction readQuotedRest? q text generalizing name after with
  | case1 => cases h
  | case2 =>
      obtain ⟨rfl, rfl⟩ := Prod.mk.inj (Option.some.inj h)
      exact ⟨rfl, nofun⟩
  | case3 c hc => cases h
  | case4 rest ih =>
      obtain ⟨⟨name', after'⟩, hrest, heq⟩ := Option.map_eq_some_iff.mp h
      obtain ⟨rfl, rfl⟩ := Prod.mk.inj heq
      obtain ⟨hrest, hafter⟩ := ih hrest
      refine ⟨?_, hafter⟩
      rw [hrest, doubled_cons, if_pos rfl]
      rfl
  | case5 d rest hd =>
      obtain ⟨rfl, rfl⟩ := Prod.mk.inj (Option.some.inj h)
      exact ⟨rfl, fun hhead => hd (Option.some.inj hhead)⟩
  | case6 c d rest hc ih =>
      obtain ⟨⟨name', after'⟩, hrest, heq⟩ := Option.map_eq_some_iff.mp h
      obtain ⟨rfl, rfl⟩ := Prod.mk.inj heq
      obtain ⟨hrest, hafter⟩ := ih hrest
      refine ⟨?_, hafter⟩
      rw [hrest, doubled_cons, if_neg hc]
      rfl

/-- A name is read just from its quoted form, before anything but one more
quote. -/
theorem readQuoted?_eq_some_iff :
    readQuoted? q text = some (name, after)
      ↔ text = quoteChars q name ++ after ∧ after.head? ≠ some q := by
  rw [quoteChars_append]
  constructor
  · intro h
    cases text with
    | nil => cases h
    | cons c rest =>
        -- A name is read only from a text that begins with a quote.
        rw [readQuoted?] at h
        split at h
        · rename_i hc
          obtain ⟨hrest, hafter⟩ := eq_doubled_of_readQuotedRest? h
          rw [hrest, hc]
          exact ⟨rfl, hafter⟩
        · cases h
  · rintro ⟨rfl, hafter⟩
    rw [readQuoted?, if_pos rfl, readQuotedRest?_doubled hafter]

/-- So a text begins with one quoted name at most. -/
theorem quoteChars_append_inj (h : after.head? ≠ some q) (h' : after'.head? ≠ some q)
    (heq : quoteChars q name ++ after = quoteChars q name' ++ after') :
    name = name' ∧ after = after' := by
  have hread : readQuoted? q (quoteChars q name ++ after) = some (name, after) :=
    readQuoted?_eq_some_iff.mpr ⟨rfl, h⟩
  rw [heq, readQuoted?_eq_some_iff.mpr ⟨rfl, h'⟩] at hread
  obtain ⟨rfl, rfl⟩ := Prod.mk.inj (Option.some.inj hread)
  exact ⟨rfl, rfl⟩

/-! ### From behind -/

/-- A quoted name is one when it is read from behind, too. -/
theorem reverse_quoteChars (q : Char) (name : List Char) :
    (quoteChars q name).reverse = quoteChars q name.reverse := by
  -- Two quotes are the same from behind.
  have hdouble : (fun c => (if c = q then [q, q] else [c] : List Char).reverse)
      = fun c => if c = q then [q, q] else [c] := by
    funext c
    split <;> rfl
  simp only [quoteChars, List.cons_append, List.reverse_cons, List.reverse_append,
    List.reverse_nil, List.nil_append, List.reverse_flatMap, Function.comp_def, hdouble]

/-- So a text ends with one quoted name at most. -/
theorem append_quoteChars_inj {before before' : List Char} (h : before.getLast? ≠ some q)
    (h' : before'.getLast? ≠ some q)
    (heq : before ++ quoteChars q name = before' ++ quoteChars q name') :
    before = before' ∧ name = name' := by
  have hreverse := congrArg List.reverse heq
  rw [List.reverse_append, List.reverse_append, reverse_quoteChars, reverse_quoteChars] at hreverse
  rw [← List.head?_reverse] at h h'
  obtain ⟨hname, hbefore⟩ := quoteChars_append_inj h h' hreverse
  exact ⟨List.reverse_injective hbefore, List.reverse_injective hname⟩

end Quoted

/-! ### The quotes of a dialect -/

namespace Dialect

variable (d : Dialect)

/-- The name that a text begins with, in the quotes of a dialect, and the
text after it. -/
def unquote? (text : String) : Option (String × String) :=
  (readQuoted? d.quoteChar text.toList).map fun read =>
    (String.ofList read.1, String.ofList read.2)

/-- The characters of a quoted name. -/
theorem toList_quote (name : String) :
    (d.quote name).toList = quoteChars d.quoteChar name.toList :=
  String.toList_ofList

/-- A name is read just from its quoted form, before anything but one more
quote. -/
theorem unquote?_eq_some_iff {text name after : String} :
    d.unquote? text = some (name, after)
      ↔ text = d.quote name ++ after ∧ after.toList.head? ≠ some d.quoteChar := by
  have hread : d.unquote? text = some (name, after)
      ↔ readQuoted? d.quoteChar text.toList = some (name.toList, after.toList) := by
    rw [unquote?, Option.map_eq_some_iff]
    constructor
    · rintro ⟨⟨cs, rest⟩, hcs, heq⟩
      obtain ⟨rfl, rfl⟩ := Prod.mk.inj heq
      rw [hcs, String.toList_ofList, String.toList_ofList]
    · intro h
      exact ⟨_, h, by rw [String.ofList_toList, String.ofList_toList]⟩
  rw [hread, readQuoted?_eq_some_iff, ← toList_quote, ← String.toList_append, String.toList_inj]

/-- Different names are quoted differently. -/
theorem quote_injective : Function.Injective d.quote := by
  intro a b h
  -- What is quoted can be read again.
  have hread (name : String) : d.unquote? (d.quote name) = some (name, "") :=
    d.unquote?_eq_some_iff.mpr ⟨String.append_empty.symm, nofun⟩
  have hsame := hread a
  rw [h, hread b] at hsame
  exact (Prod.mk.inj (Option.some.inj hsame)).1.symm

end Dialect

end DataAccess
