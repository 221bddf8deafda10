import DataAccess.Backend

/-!
# `DataAccess.Sql.Identifier`: quoted identifiers

Names of tables and columns in quotes, so that they may have any
characters: the quote itself is written twice. MySQL quotes with
grave accents, SQLite with double quotes.

* `quoteChars`, `Dialect.quote`: a name in quotes.
* `readQuoted?`: the name at the start of a text, and the text after
  it.
-/

set_option autoImplicit false

namespace DataAccess

/-- The way of writing statements for a backend. -/
abbrev Dialect := Backend

/-- A name in quotes `q`. -/
def quoteChars (q : Char) (name : List Char) : List Char :=
  q :: name.flatMap (fun c => if c = q then [q, q] else [c]) ++ [q]

/-- Reads the rest of a name up to the quote `q` that ends it. -/
def readQuotedRest? (q : Char) : List Char → Option (List Char × List Char)
  | [] => none
  | [c] => if c = q then some ([], []) else none
  | c :: d :: rest =>
    if c = q then
      if d = q then (readQuotedRest? q rest).map fun (name, after) => (q :: name, after)
      else some ([], d :: rest)
    else (readQuotedRest? q (d :: rest)).map fun (name, after) => (c :: name, after)

/-- The name that a text begins with in quotes `q`, and the text after
it. -/
def readQuoted? (q : Char) : List Char → Option (List Char × List Char)
  | c :: rest => if c = q then readQuotedRest? q rest else none
  | [] => none

namespace Dialect

/-- The quote of a dialect. -/
def quoteChar : Dialect → Char
  | .mysql => '\x60'
  | .sqlite => '"'

/-- A name in the quotes of a dialect. -/
def quote (d : Dialect) (name : String) : String :=
  String.ofList (quoteChars d.quoteChar name.toList)

end Dialect

end DataAccess
