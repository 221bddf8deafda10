import DataAccess.Text.Blank

/-!
# `DataAccess.Uuid`: universally unique identifiers

Identifiers of 128 bits, as 16 bytes, and their text: 32 hexadecimal
digits in groups of 8, 4, 4, 4 and 12.

* `Uuid.text`: the groups in small letters, joined by hyphens.
* `Uuid.read?`: reads that text, in either case, also within braces or
  after `urn:uuid:`, and 32 digits without hyphens.
* `Uuid.ofBytes?`: the identifier of exactly 16 bytes.
-/

set_option autoImplicit false

namespace DataAccess

/-- A universally unique identifier. -/
structure Uuid where
  /-- Its bytes, the first one first. -/
  bytes : List UInt8
  /-- There are 16 of them. -/
  length_eq : bytes.length = 16
  deriving DecidableEq

/-- The identifier with the given bytes, if they are 16. -/
def Uuid.ofBytes? (bytes : List UInt8) : Option Uuid :=
  if h : bytes.length = 16 then some ⟨bytes, h⟩ else none

namespace Uuid

/-- The value of a hexadecimal digit. -/
def hexValue? (c : Char) : Option Nat :=
  if '0' ≤ c ∧ c ≤ '9' then some (c.toNat - '0'.toNat)
  else if 'a' ≤ c ∧ c ≤ 'f' then some (c.toNat - 'a'.toNat + 10)
  else if 'A' ≤ c ∧ c ≤ 'F' then some (c.toNat - 'A'.toNat + 10)
  else none

/-- The two hexadecimal digits of a byte. -/
def hexChars (b : UInt8) : List Char :=
  [Nat.digitChar (b.toNat / 16), Nat.digitChar (b.toNat % 16)]

/-- The bytes that an even number of hexadecimal digits write. -/
def bytesOfHex? : List Char → Option (List UInt8)
  | [] => some []
  | [_] => none
  | c :: d :: rest => do
    let high ← hexValue? c
    let low ← hexValue? d
    let bytes ← bytesOfHex? rest
    return UInt8.ofNat (16 * high + low) :: bytes

/-- The text of an identifier, as characters. -/
def chars (u : Uuid) : List Char :=
  let group (start count : Nat) := ((u.bytes.drop start).take count).flatMap hexChars
  group 0 4 ++ '-' :: group 4 2 ++ '-' :: group 6 2 ++ '-' :: group 8 2 ++ '-' :: group 10 6

/-- The text of an identifier. -/
def text (u : Uuid) : String :=
  String.ofList u.chars

/-- Reads the 36 characters of five groups joined by hyphens. -/
def readGroups? (cs : List Char) : Option Uuid :=
  let at? (i : Nat) := cs[i]? == some '-'
  if cs.length = 36 ∧ at? 8 ∧ at? 13 ∧ at? 18 ∧ at? 23 then do
    let digits := cs.take 8 ++ (cs.drop 9).take 4 ++ (cs.drop 14).take 4
      ++ (cs.drop 19).take 4 ++ cs.drop 24
    let bytes ← bytesOfHex? digits
    ofBytes? bytes
  else none

/-- The identifier that a text writes. -/
def read? (s : String) : Option Uuid :=
  let cs := s.toList
  if cs.length = 32 then (bytesOfHex? cs).bind ofBytes?
  else if cs.length = 36 then readGroups? cs
  else if cs.length = 38 ∧ cs.head? = some '{' ∧ cs.getLast? = some '}' then
    readGroups? (cs.drop 1).dropLast
  else if cs.length = 45 ∧ (cs.take 9).map Char.toLower = "urn:uuid:".toList then
    readGroups? (cs.drop 9)
  else none

end Uuid

end DataAccess
