/-!
# `DataAccess.Url.Punycode`: labels in Punycode

The labels of domain names that begin with `xn--` write other
characters with those of ASCII. The ASCII characters of the label stand
first, as they are, and the others follow after the last hyphen: each
as a number of variable length that says how far it lies from the one
before, in character and in place.

* `Punycode.decode?`: the label, if its encoding is one.
-/

set_option autoImplicit false

namespace DataAccess.Url.Punycode

/-- The value of a digit. -/
def digit? (c : Char) : Option Nat :=
  if 'a' ≤ c ∧ c ≤ 'z' then some (c.toNat - 'a'.toNat)
  else if 'A' ≤ c ∧ c ≤ 'Z' then some (c.toNat - 'A'.toNat)
  else if '0' ≤ c ∧ c ≤ '9' then some (c.toNat - '0'.toNat + 26)
  else none

/-- The greatest number that is computed with. -/
def bound : Nat := 0xFFFFFFFF

/-- The value from which a digit is followed by another one. -/
def threshold (k bias : Nat) : Nat :=
  if k ≤ bias then 1 else min 26 (k - bias)

/-- A number of variable length at the start of a text, added to `sum`,
and the text after it. The next digit counts `weight` fold and has the
place `k`. -/
def number? (bias : Nat) : Nat → Nat → Nat → List Char → Option (Nat × List Char)
  | _, _, _, [] => none
  | sum, weight, k, c :: cs => do
    let d ← digit? c
    let sum := sum + d * weight
    if bound < sum then none
    else
      let t := threshold k bias
      if d < t then some (sum, cs)
      else if bound < weight * (36 - t) then none
      else number? bias sum (weight * (36 - t)) (k + 36) cs

/-- Divides a distance by 35 until it is at most 455, at most so many
times: what is left, and 36 for every time. -/
def damped : Nat → Nat → Nat × Nat
  | 0, delta => (delta, 0)
  | n + 1, delta =>
    if delta ≤ 455 then (delta, 0)
    else
      let (rest, k) := damped n (delta / 35)
      (rest, k + 36)

/-- The bias after a distance to the place of one of `count`
characters. -/
def adapt (delta count : Nat) (first : Bool) : Nat :=
  let delta := if first then delta / 700 else delta / 2
  let (delta, k) := damped 7 (delta + delta / count)
  k + 36 * delta / (delta + 38)

/-- Puts the characters of the numbers in a text into the characters
read before. The next number counts on from the character `code` at the
place `i`. Each number takes at least one character of the text, so
`fuel` many steps read any text of fewer characters. -/
def insertAll? : Nat → (code i bias : Nat) → List Char → List Char → Option (List Char)
  | _, _, _, _, label, [] => some label
  | 0, _, _, _, _, _ => none
  | fuel + 1, code, i, bias, label, text => do
    let (sum, rest) ← number? bias i 1 36 text
    let count := label.length + 1
    let bias := adapt (sum - i) count (i == 0)
    let code := code + sum / count
    let place := sum % count
    if code.isValidChar then
      insertAll? fuel code (place + 1) bias
        (label.take place ++ Char.ofNat code :: label.drop place) rest
    else none

/-- The label that a text of ASCII after `xn--` writes. -/
def decode? (text : List Char) : Option (List Char) :=
  let encoded := (text.reverse.takeWhile (· != '-')).reverse
  let plain := text.take (text.length - encoded.length - 1)
  let encoded := if plain.isEmpty then text else encoded
  if plain.all (·.toNat ≤ 0x7F) then insertAll? (encoded.length + 1) 128 0 72 plain encoded
  else none

end DataAccess.Url.Punycode
