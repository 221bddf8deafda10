import DataAccess.Decimal.Shortest
import DataAccess.Json.Basic

/-!
# `DataAccess.Json.Printer`: documents as text

The compact text of a document: no white space, members in the order
they stand in.

* `Json.quoted`: a text in quotes. Quotes, backslashes and control
  characters are escaped, by a letter where there is one.
* `Json.realText`: a floating point number with the fewest digits that
  read back. It is positional from `1e-5` up to, and not with, `1e16`,
  always with a point; outside, an exponent with its sign follows.
* `Json.compact`: the document.
-/

set_option autoImplicit false

namespace DataAccess.Json

/-- A control character as four hexadecimal digits. -/
def unicodeEscape (c : Char) : List Char :=
  ['\\', 'u', '0', '0', Nat.digitChar (c.toNat / 16), Nat.digitChar (c.toNat % 16)]

/-- One character inside quotes. -/
def quotedChar (c : Char) : List Char :=
  match c with
  | '"' => ['\\', '"']
  | '\\' => ['\\', '\\']
  | '\n' => ['\\', 'n']
  | '\r' => ['\\', 'r']
  | '\t' => ['\\', 't']
  | '\x08' => ['\\', 'b']
  | '\x0c' => ['\\', 'f']
  | _ => if c.toNat < 0x20 then unicodeEscape c else [c]

/-- A text in quotes. -/
def quoted (s : String) : String :=
  String.ofList ('"' :: s.toList.flatMap quotedChar ++ ['"'])

/-- The decimal `digits * 10 ^ exponent` in the notation of a
document. -/
def decimalText (d : Decimal) : String :=
  let digits := Nat.toDigits 10 d.digits
  -- The power of ten of the first digit.
  let order : Int := digits.length + d.exponent - 1
  let zeros (n : Int) : List Char := List.replicate n.toNat '0'
  if d.digits = 0 then "0.0"
  else if 0 ≤ d.exponent ∧ order < 16 then
    String.ofList (digits ++ zeros d.exponent) ++ ".0"
  else if 0 ≤ order ∧ order < 16 then
    let whole := order.toNat + 1
    String.ofList (digits.take whole ++ '.' :: digits.drop whole)
  else if -5 ≤ order ∧ order < 0 then
    "0." ++ String.ofList (zeros (-order - 1) ++ digits)
  else
    let fraction := if digits.length = 1 then [] else '.' :: digits.drop 1
    let sign := if order < 0 then '-' else '+'
    String.ofList (digits.take 1 ++ fraction ++ 'e' :: sign :: Nat.toDigits 10 order.natAbs)

/-- The text of a floating point number. -/
def realText (x : Real) : String :=
  let (negative, d) := Decimal.ofFloat x.val
  (if negative then "-" else "") ++ decimalText d

mutual

/-- The compact text of a document. -/
def compact : Json → String
  | .null => "null"
  | .bool b => if b then "true" else "false"
  | .integer n => toString n.val
  | .real x => realText x
  | .string s => quoted s
  | .array items => "[" ++ compactItems items ++ "]"
  | .object members => "\x7b" ++ compactMembers members ++ "\x7d"

/-- The texts of the items of a list, with commas between them. -/
def compactItems : List Json → String
  | [] => ""
  | [item] => compact item
  | item :: items => compact item ++ "," ++ compactItems items

/-- The texts of the members of an object, with commas between them. -/
def compactMembers : List (String × Json) → String
  | [] => ""
  | [(name, value)] => quoted name ++ ":" ++ compact value
  | (name, value) :: rest => quoted name ++ ":" ++ compact value ++ "," ++ compactMembers rest

end

end DataAccess.Json
