/-!
# `DataAccess.Text.Blank`: white space

Which characters count as white space (the Unicode property
`White_Space`), and trimming of text by it. Settings, condition
templates and date texts are all trimmed by this one rule.

* `isBlank`: the property, as a table of its ranges.
* `trimStart`, `trim`: text without the blanks at its start, or at
  both of its ends.
-/

set_option autoImplicit false

namespace DataAccess.Text

/-- The characters of the Unicode property `White_Space`. -/
def isBlank (c : Char) : Bool :=
  let n := c.toNat
  (0x09 ≤ n && n ≤ 0x0D) || n == 0x20 || n == 0x85 || n == 0xA0 || n == 0x1680
    || (0x2000 ≤ n && n ≤ 0x200A) || n == 0x2028 || n == 0x2029 || n == 0x202F
    || n == 0x205F || n == 0x3000

/-- The characters left when the blanks at the start are dropped. -/
def trimStart (cs : List Char) : List Char :=
  cs.dropWhile isBlank

/-- The text without the blanks at either end. -/
def trim (s : String) : String :=
  String.ofList (trimStart (trimStart s.toList).reverse).reverse

/-- The text with every ASCII capital made small, and every other
character kept. -/
def asciiLower (s : String) : String :=
  String.ofList (s.toList.map Char.toLower)

/-- Two texts are equal when the case of ASCII letters is not looked
at. -/
def sameIgnoringCase (s t : String) : Bool :=
  asciiLower s == asciiLower t

end DataAccess.Text
