import DataAccess.Decimal.Extended
import DataAccess.Sql.Identifier
import DataAccess.Text.Blank
import DataAccess.Uuid
import DataAccess.Value.Basic

/-!
# `DataAccess.Memory.Request`: the statements of a database in memory

The part of SQL that the database in memory understands: rows of
literals and parameters, and the making, filling, reading and emptying
of tables. Keywords are read in any case; names may be in double
quotes.

* `Request`: the statements.
* `Request.read?`: the statement of a text, unless it is none of
  these.
-/

set_option autoImplicit false

namespace DataAccess.Memory

/-- A value in a statement. -/
inductive Item where
  /-- The next parameter. -/
  | parameter
  /-- A value that is written out. -/
  | literal (v : Value)

/-- A statement. -/
inductive Request where
  /-- One row of named values. -/
  | row (columns : List (String × Item))
  /-- A new table. -/
  | createTable (table : String) (columns : List String)
  /-- A new row of a table. -/
  | insertRow (table : String) (items : List Item)
  /-- All rows of a table. -/
  | readTable (table : String)
  /-- Removes all rows of a table. -/
  | clearTable (table : String)

/-- What reads something at the start of a text and leaves the text
after it. -/
abbrev Reader (α : Type) := StateT (List Char) Option α

namespace Reader

variable {α : Type}

/-- Any blanks. -/
def blanks : Reader Unit := fun cs =>
  some ((), Text.trimStart cs)

/-- The character `c`, after any blanks. -/
def char (c : Char) : Reader Unit := do
  blanks
  match ← get with
  | d :: cs => if d = c then set cs else failure
  | [] => failure

/-- The end of the text, perhaps after a semicolon. -/
def finish : Reader Unit := do
  blanks
  match Text.trimStart ((← get).dropWhile (· == ';')) with
  | [] => return
  | _ => failure

/-- A character of a word. -/
def isWordChar (c : Char) : Bool :=
  c.isAlphanum || c == '_' || c == '$' || 0x7f < c.toNat

/-- A word, after any blanks. -/
def word : Reader String := do
  blanks
  let cs ← get
  let letters := cs.takeWhile isWordChar
  if letters.isEmpty || (letters.head?.map Char.isDigit).getD false then failure
  else
    set (cs.drop letters.length)
    return String.ofList letters

/-- A keyword, after any blanks. -/
def keyword (name : String) : Reader Unit := do
  if Text.sameIgnoringCase (← word) name then return else failure

/-- A text in quotes `q`, after any blanks. -/
def quotedBy (q : Char) : Reader String := do
  blanks
  match readQuoted? q (← get) with
  | some (name, cs) => do
    set cs
    return String.ofList name
  | none => failure

/-- A name. -/
def name : Reader String :=
  quotedBy '"' <|> word

/-- At least one thing, with commas between them; at most so many. -/
def commaList (item : Reader α) : Nat → Reader (List α)
  | 0 => failure
  | n + 1 => do
    let first ← item
    let rest ← (do char ','; commaList item n) <|> pure []
    return first :: rest

/-- Things with commas between them. -/
def commas (item : Reader α) : Reader (List α) := do
  commaList item ((← get).length + 1)

/-- Any digits. -/
def digits : Reader (List Nat) := do
  let cs ← get
  let ds := cs.takeWhile Char.isDigit
  set (cs.drop ds.length)
  return ds.map fun c => c.toNat - '0'.toNat

/-- The number that digits write. -/
def numberOf (digits : List Nat) : Nat :=
  digits.foldl (fun n d => 10 * n + d) 0

/-- The sign of a number. -/
def sign : Reader Bool := do
  match ← get with
  | '-' :: cs => do set (Text.trimStart cs); return true
  | '+' :: cs => do set (Text.trimStart cs); return false
  | _ => return false

/-- The exponent of a number, if there is one. -/
def exponent : Reader (Option Int) := do
  match ← get with
  | c :: cs =>
    if c = 'e' ∨ c = 'E' then do
      set cs
      let negative ← sign
      let ds ← digits
      if ds.isEmpty then failure
      return some (if negative then -(numberOf ds : Int) else numberOf ds)
    else return none
  | [] => return none

/-- A floating point number. -/
def float (negative : Bool) (whole fraction : List Nat) (exponent : Int) : Value :=
  let x := Decimal.scaled whole fraction exponent
  .float64 (if negative then -x else x)

/-- A number: a whole one if it has neither point nor exponent and fits
in 64 bits, or else a floating point number. -/
def number : Reader Value := do
  blanks
  let negative ← sign
  let whole ← digits
  let point ← (some <$> (do char '.'; digits)) <|> pure none
  let fraction := point.getD []
  if whole.isEmpty && fraction.isEmpty then failure
  match point, ← exponent with
  | none, none =>
    let n : Int := if negative then -(numberOf whole : Int) else numberOf whole
    if -0x8000000000000000 ≤ n ∧ n < 0x8000000000000000 then return .int64 (Int64.ofInt n)
    else return float negative whole [] 0
  | _, e => return float negative whole fraction (e.getD 0)

/-- Bytes in hexadecimal. -/
def blob : Reader Value := do
  blanks
  match ← get with
  | c :: cs =>
    if c = 'x' ∨ c = 'X' then do
      set cs
      match ← get with
      | '\'' :: _ => do
        let text ← quotedBy '\''
        match Uuid.bytesOfHex? text.toList with
        | some bytes => return .bytes bytes
        | none => failure
      | _ => failure
    else failure
  | [] => failure

/-- A value in a statement. -/
def item : Reader Item :=
  (do char '?'; return .parameter)
    <|> (do keyword "null"; return .literal .null)
    <|> (do let s ← quotedBy '\''; return .literal (.string s))
    <|> (do return .literal (← blob))
    <|> (do return .literal (← number))

/-- A named value: under the name that follows it, or else its own
text. -/
def column : Reader (String × Item) := do
  blanks
  let start ← get
  let i ← item
  let text := String.ofList (start.take (start.length - (← get).length))
  let label ← (do keyword "as"; name) <|> pure text
  return (label, i)

/-- A column of a new table, with the words of its type. -/
def typedColumn : Reader String := do
  let column ← name
  let rec words : Nat → Reader Unit
    | 0 => return
    | n + 1 => (do let _ ← word; words n) <|> pure ()
  words (← get).length
  return column

/-- A statement. -/
def request : Reader Request :=
  (do
    keyword "select"; char '*'; keyword "from"
    let table ← name
    finish
    return .readTable table)
  <|> (do
    keyword "select"
    let columns ← commas column
    finish
    return .row columns)
  <|> (do
    keyword "create"; keyword "table"
    let table ← name
    char '('
    let columns ← commas typedColumn
    char ')'; finish
    return .createTable table columns)
  <|> (do
    keyword "insert"; keyword "into"
    let table ← name
    keyword "values"; char '('
    let items ← commas item
    char ')'; finish
    return .insertRow table items)
  <|> (do
    keyword "delete"; keyword "from"
    let table ← name
    finish
    return .clearTable table)

end Reader

/-- The statement of a text. -/
def Request.read? (sql : String) : Option Request :=
  (Reader.request sql.toList).map (·.1)

end DataAccess.Memory
