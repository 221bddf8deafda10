/-!
# `DataAccess.Text.Table`: tables of characters

Properties of the characters of Unicode, written down as texts. All
numbers in them are hexadecimal.

* `ranges`: a list of numbers, as in `41-5a aa b5`, where a range
  stands as its first and its last number.
* `keyedRanges`: such lists under keys, as in `e6:300-314 33d;dc:316`,
  where a key is one number or, as in `66+69`, several.
* `inRanges`: a number is in a list.

The ranges of a property may run on over numbers that stand for no
character.
-/

set_option autoImplicit false

namespace DataAccess.Text

/-- The numbers from the first to the last. -/
structure Range where
  /-- The first number. -/
  first : Nat
  /-- The last number. -/
  last : Nat
  deriving DecidableEq, Repr

namespace Range

/-- The range has a number. -/
def has (r : Range) (n : Nat) : Bool :=
  r.first ≤ n && n ≤ r.last

end Range

/-- The number that hexadecimal digits write. -/
def hexNumber (digits : List Char) : Nat :=
  digits.foldl
    (fun n c => 16 * n + (if c.isDigit then c.toNat - '0'.toNat else c.toNat - 'a'.toNat + 10)) 0

/-- The range that a text writes, with a hyphen between its ends. -/
def rangeOf (text : List Char) : Range :=
  let first := text.takeWhile (· != '-')
  match text.drop (first.length + 1) with
  | [] => ⟨hexNumber first, hexNumber first⟩
  | last => ⟨hexNumber first, hexNumber last⟩

/-- The parts of a text between blanks and ends of lines. -/
def words (text : List Char) : List (List Char) :=
  (text.splitOnP fun c => c == ' ' || c == '\n').filter (!·.isEmpty)

/-- The ranges that a text writes, with blanks between them. -/
def rangesOf (text : List Char) : List Range :=
  (words text).map rangeOf

/-- The ranges that a text writes. -/
def ranges (text : String) : List Range :=
  rangesOf text.toList

/-- The ranges that a text writes under keys. A semicolon stands between
the groups, and a colon after each key. -/
def keyedRanges (text : String) : List (List Nat × List Range) :=
  (text.toList.splitOn ';').map fun group =>
    let key := group.takeWhile (· != ':')
    let numbers := (words key).flatMap (·.splitOn '+')
    (numbers.map hexNumber, rangesOf (group.drop (key.length + 1)))

/-- A number is in one of the ranges. -/
def inRanges (table : List Range) (n : Nat) : Bool :=
  table.any (·.has n)

/-- The key of the ranges that a number is in, and the range. -/
def findKeyed? (table : List (List Nat × List Range)) (n : Nat) : Option (List Nat × Range) :=
  table.findSome? fun (key, ranges) => (ranges.find? (·.has n)).map fun range => (key, range)

end DataAccess.Text
