/-!
# `DataAccess.Text.Digits`: whole numbers in decimal

Reading a whole number of bounded size out of a text.

* `readNat`: an optional plus sign and at least one ASCII digit, and
  nothing else; the number must not pass the given bound. The flaw of
  a refused text is the first one met from the left.
-/

set_option autoImplicit false

namespace DataAccess.Text

/-- Why a text is no whole number. -/
inductive NumberFlaw where
  /-- The text has no characters. -/
  | empty
  /-- A character is no digit, or the sign stands alone. -/
  | invalidDigit
  /-- The number passes its bound. -/
  | tooLarge
  deriving DecidableEq, Repr

/-- The wording of a flaw. -/
def NumberFlaw.message : NumberFlaw → String
  | .empty => "cannot parse integer from empty string"
  | .invalidDigit => "invalid digit found in string"
  | .tooLarge => "number too large to fit in target type"

/-- The value of an ASCII digit. -/
def digit? (c : Char) : Option Nat :=
  if c.isDigit then some (c.toNat - '0'.toNat) else none

/-- Reads the digits `cs` after a number read so far, up to `bound`. -/
def readDigits (bound : Nat) : Nat → List Char → Except NumberFlaw Nat
  | n, [] => .ok n
  | n, c :: cs =>
    match digit? c with
    | none => .error .invalidDigit
    | some d =>
      if 10 * n + d ≤ bound then readDigits bound (10 * n + d) cs
      else .error .tooLarge

/-- The whole number a text writes, at most `bound`. -/
def readNat (bound : Nat) (s : String) : Except NumberFlaw Nat :=
  match s.toList with
  | [] => .error .empty
  | ['+'] => .error .invalidDigit
  | '+' :: cs => readDigits bound 0 cs
  | cs => readDigits bound 0 cs

end DataAccess.Text
