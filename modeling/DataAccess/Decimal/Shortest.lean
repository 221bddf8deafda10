/-!
# `DataAccess.Decimal.Shortest`: the fewest digits that read back

The decimal text of a binary floating point number. Among all decimals
that lie nearer to the number than to any other of its format, the
shortest is chosen, and of those the nearest; of two that are equally
near, the one whose last digit is even.

A positive number `m * 2 ^ q` is the one read back from every real
number of an interval around it: half a step up, and half a step down
(a quarter if the steps below are half as long). The ends belong to
the interval when `m` is even, because reading rounds a tie to the even
neighbour. For 1, 2, and so on digits, the number has two neighbours on
the grid of decimals with so many digits; if any point of the grid lies
in the interval, then one of the two does.
-/

set_option autoImplicit false

namespace DataAccess

/-- The number `digits * 10 ^ exponent`. -/
structure Decimal where
  /-- Its digits, read as a whole number. -/
  digits : Nat
  /-- The place of the last digit. -/
  exponent : Int
  deriving DecidableEq, Repr

namespace Decimal

/-- A positive binary number `mantissa * 2 ^ exponent`. -/
structure Binary where
  /-- Its bits, read as a whole number. -/
  mantissa : Nat
  /-- The place of the last bit. -/
  exponent : Int
  /-- The steps below it are half as long as the steps above. -/
  narrowBelow : Bool
  deriving DecidableEq, Repr

/-- How many decimal digits write `n`. -/
def digitCount (n : Nat) : Nat :=
  (Nat.toDigits 10 n).length

/-- The `e` with `10 ^ (e - 1) ≤ num / den < 10 ^ e`, for a positive
quotient. -/
def decimalOrder (num den : Nat) : Int :=
  if den ≤ num then (digitCount (num / den) : Int)
  else 1 - (digitCount ((den - 1) / num) : Int)

/-- The decimal with at most `count` digits that lies nearest to `b`
and is read back as `b`, if there is one. -/
def nearestWith? (b : Binary) (count : Nat) : Option Decimal :=
  -- All of `b`, its interval and the grid are measured in quarter steps.
  let q := b.exponent - 2
  let up := Nat.pow 2 q.toNat
  let den := Nat.pow 2 (-q).toNat
  let value := 4 * b.mantissa * up
  let low := (4 * b.mantissa - (if b.narrowBelow then 1 else 2)) * up
  let high := (4 * b.mantissa + 2) * up
  let place : Int := decimalOrder value den - count
  let unit := Nat.pow 10 place.toNat * den
  let scale := Nat.pow 10 (-place).toNat
  let inside (c : Nat) : Bool :=
    let x := c * unit
    if b.mantissa % 2 == 0 then low * scale ≤ x && x ≤ high * scale
    else low * scale < x && x < high * scale
  let below := value * scale / unit
  let above := below + 1
  let twice := 2 * (value * scale)
  let middle := (below + above) * unit
  let nearerBelow := twice < middle || (twice == middle && below % 2 == 0)
  -- The grid point `10 ^ count` has a digit too many, a zero.
  let decimal (c : Nat) : Decimal := if c % 10 = 0 then ⟨c / 10, place + 1⟩ else ⟨c, place⟩
  match inside below, inside above with
  | true, true => some (decimal (if nearerBelow then below else above))
  | true, false => some (decimal below)
  | false, true => some (decimal above)
  | false, false => none

/-- The shortest decimal that is read back as `b`. Seventeen digits
always suffice for the numbers of 64 bits. -/
def shortest (b : Binary) : Decimal :=
  ((List.range 17).findSome? fun n => nearestWith? b (n + 1)).getD ⟨0, 0⟩

/-- The binary number that the bits of a positive finite `Float`
write. -/
def Binary.ofBits (bits : UInt64) : Binary :=
  let fraction := bits.toNat % 0x10000000000000
  let biased : Nat := bits.toNat / 0x10000000000000 % 0x800
  if biased = 0 then ⟨fraction, -1074, false⟩
  else ⟨0x10000000000000 + fraction, (biased : Int) - 1075, fraction == 0 && biased != 1⟩

/-- The sign of `x` and its shortest digits. -/
def ofFloat (x : Float) : Bool × Decimal :=
  let bits := x.toBits
  let magnitude := bits &&& 0x7FFFFFFFFFFFFFFF
  (bits != magnitude,
    if magnitude = 0 then ⟨0, 0⟩ else shortest (Binary.ofBits magnitude))

end Decimal

end DataAccess
