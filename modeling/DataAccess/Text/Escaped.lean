import DataAccess.Text.Category

/-!
# `DataAccess.Text.Escaped`: texts in quotes, with escapes

Texts and characters as they stand in descriptions: in quotes, with an
escape for every character that would end the quotes, that moves the
cursor, or that cannot be seen by itself.

* `isUnseen`: the characters that cannot be seen by themselves.
* `Text.escaped`, `Text.escapedChar`: a text in double quotes, and a
  character in single ones.
-/

set_option autoImplicit false

namespace DataAccess.Text

/-- The character cannot be seen by itself: it has no shape, or goes with
the character before it. All of ASCII can be seen but its controls. -/
def isUnseen (c : Char) : Bool :=
  if ' ' ≤ c ∧ c ≤ '~' then false else isUnprintable c || isExtender c

/-- A character between quotes `q`. -/
def escapedChars (q c : Char) : List Char :=
  if c = q ∨ c = '\\' then ['\\', c]
  else if c = '\n' then ['\\', 'n']
  else if c = '\r' then ['\\', 'r']
  else if c = '\t' then ['\\', 't']
  else if c = '\x00' then ['\\', '0']
  else if isUnseen c then ['\\', 'u', '\x7b'] ++ Nat.toDigits 16 c.toNat ++ ['\x7d']
  else [c]

/-- A text in double quotes. -/
def escaped (s : String) : String :=
  String.ofList (['"'] ++ s.toList.flatMap (escapedChars '"') ++ ['"'])

/-- A character in single quotes. -/
def escapedChar (c : Char) : String :=
  String.ofList (['\''] ++ escapedChars '\'' c ++ ['\''])

end DataAccess.Text
