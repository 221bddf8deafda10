import DataAccess.Error

/-!
# `DataAccess.Criteria.Template`: condition templates

Conditions are written as text in which a marker character introduces
a reference to a field, and question marks stand for values. A
reference runs up to the first space or closing parenthesis. Within
quotes, single or double, neither markers nor question marks mean
anything; the quote that opens a literal closes it.

* `Template.pieces`: the text cut at its references.
* `Template.expand`: the text with every reference replaced.
* `Template.placeholders`: the number of question marks that stand for
  values.
-/

set_option autoImplicit false

namespace DataAccess.Template

/-- A character that opens a literal. -/
def isQuote (c : Char) : Bool :=
  c == '\'' || c == '"'

/-- A character that ends a reference. -/
def endsReference (c : Char) : Bool :=
  c == ' ' || c == ')'

/-- A part of a template. -/
inductive Piece where
  /-- A character that stands for itself. -/
  | char (c : Char)
  /-- A reference, without its marker. -/
  | reference (name : String)
  /-- A marker after which no reference ends. -/
  | unfinished
  deriving DecidableEq, Repr

/-- Cuts a template at its references; `open?` is the quote of the
literal that the text begins in. Nothing follows an unfinished
reference. -/
def pieces (marker : Char) (open? : Option Char) (cs : List Char) : List Piece :=
  match cs with
  | [] => []
  | c :: rest =>
    match open? with
    | some quote => .char c :: pieces marker (if c = quote then none else some quote) rest
    | none =>
      if isQuote c then .char c :: pieces marker (some c) rest
      else if c = marker then
        let name := rest.takeWhile fun d => !endsReference d
        if name.length = rest.length then [.unfinished]
        else .reference (String.ofList name) :: pieces marker none (rest.drop name.length)
      else .char c :: pieces marker none rest
termination_by cs.length
decreasing_by all_goals simp [List.length_drop]; try omega

/-- The text of the pieces, every reference replaced by what `resolve`
gives for it, in order. An unfinished reference fails. -/
def join {m : Type → Type} [Monad m] [MonadExcept Error m] (template : String)
    (resolve : String → m String) : List Piece → m (List Char)
  | [] => pure []
  | .char c :: rest => do
    let text ← join template resolve rest
    pure (c :: text)
  | .reference name :: rest => do
    let column ← resolve name
    let text ← join template resolve rest
    pure (column.toList ++ text)
  | .unfinished :: _ => throw (.malformedCondition template)

/-- The template with every reference replaced by what `resolve` gives
for it, in order. -/
def expand {m : Type → Type} [Monad m] [MonadExcept Error m] (marker : Char)
    (resolve : String → m String) (template : String) : m String := do
  let text ← join template resolve (pieces marker none template.toList)
  pure (String.ofList text)

/-- The question marks outside of literals; `open?` is the quote of the
literal that the text begins in. -/
def placeholdersFrom (open? : Option Char) : List Char → Nat
  | [] => 0
  | c :: rest =>
    match open? with
    | some quote => placeholdersFrom (if c = quote then none else some quote) rest
    | none =>
      if isQuote c then placeholdersFrom (some c) rest
      else if c = '?' then placeholdersFrom none rest + 1
      else placeholdersFrom none rest

/-- The number of values that a text asks for. -/
def placeholders (text : String) : Nat :=
  placeholdersFrom none text.toList

end DataAccess.Template
