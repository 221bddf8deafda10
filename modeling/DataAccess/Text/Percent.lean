import DataAccess.Text.Utf8

/-!
# `DataAccess.Text.Percent`: percent-encoded text

Text in which `%` and two hexadecimal digits stand for a byte, and the
lists of names and values that the query of a URL writes with it.

* `Percent.decodeBytes`: the bytes of such a text; a `%` without its
  two digits stands for itself.
* `Percent.decode`: the text of those bytes, which have to be UTF-8.
* `Percent.pairs`: the names and values of a query, where `+` stands
  for a space and flaws of UTF-8 are replaced.
-/

set_option autoImplicit false

namespace DataAccess.Text.Percent

/-- The value of a hexadecimal digit. -/
def hexValue? (b : UInt8) : Option UInt8 :=
  if 0x30 ≤ b ∧ b ≤ 0x39 then some (b - 0x30)
  else if 0x61 ≤ b ∧ b ≤ 0x66 then some (b - 0x57)
  else if 0x41 ≤ b ∧ b ≤ 0x46 then some (b - 0x37)
  else none

/-- The bytes that percent-encoded bytes stand for. -/
def decodeBytes : List UInt8 → List UInt8
  | 0x25 :: a :: b :: rest =>
    match hexValue? a, hexValue? b with
    | some x, some y => (16 * x + y) :: decodeBytes rest
    | _, _ => 0x25 :: decodeBytes (a :: b :: rest)
  | b :: rest => b :: decodeBytes rest
  | [] => []

/-- The text that a percent-encoded text stands for. -/
def decode (s : String) : Except Utf8.Error String :=
  Utf8.decode (decodeBytes (Utf8.encode s))

/-- A name or a value of a query. -/
def formText (cs : List Char) : String :=
  let spaced := String.ofList (cs.map fun c => if c = '+' then ' ' else c)
  Utf8.decodeLossy (decodeBytes (Utf8.encode spaced))

/-- The names and values of a query: parts between `&`, each split at
its first `=`. Empty parts are left out. -/
def pairs (query : String) : List (String × String) :=
  let parts := (query.toList.splitOn '&').filter fun part => !part.isEmpty
  parts.map fun part =>
    (formText (part.takeWhile (· != '=')), formText ((part.dropWhile (· != '=')).drop 1))

end DataAccess.Text.Percent
