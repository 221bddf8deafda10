/-!
# `DataAccess.Decimal.Extended`: decimals scaled in 64 bits

The value of a decimal as it is computed by rounding at every step.
The digits are gathered as long as they fit in 64 bits. The number they
make is scaled by powers of ten, a hundred places, ten places or one
place at a time; each power and each product is rounded to 64
significant bits, and the result to a floating point number.

* `Extended`: the numbers that are computed with.
* `Extended.nearest`, `mul`: the roundings.
* `Extended.toFloat`: the nearest floating point number.
* `Decimal.gather`, `Decimal.scaled`: the value of digits and a place.
-/

set_option autoImplicit false

namespace DataAccess

/-- The whole number nearest to `num / den`; of two that are equally
near, the even one. -/
def roundEven (num den : Nat) : Nat :=
  let below := num / den
  let twice := 2 * (num % den)
  if den < twice ∨ (twice = den ∧ below % 2 = 1) then below + 1 else below

/-- The number `mantissa * 2 ^ exponent`. -/
structure Extended where
  /-- Its bits, read as a whole number. -/
  mantissa : Nat
  /-- The place of the last bit. -/
  exponent : Int
  deriving DecidableEq, Repr

namespace Extended

/-- The number of 64 significant bits nearest to
`num / den * 2 ^ exponent`, for a positive quotient. -/
def nearest (num den : Nat) (exponent : Int) : Extended :=
  -- Moves the quotient to where its whole part has 63 bits or 64.
  let first : Int := 63 + (den.log2 : Int) - num.log2
  let moved (shift : Int) : Nat × Nat :=
    (num * Nat.pow 2 shift.toNat, den * Nat.pow 2 (-shift).toNat)
  let shift :=
    if (moved first).1 < 0x8000000000000000 * (moved first).2 then first + 1 else first
  ⟨roundEven (moved shift).1 (moved shift).2, exponent - shift⟩

/-- The product of two positive numbers. -/
def mul (x y : Extended) : Extended :=
  nearest (x.mantissa * y.mantissa) 1 (x.exponent + y.exponent)

/-- The product of `x` and so many factors `y`, one after the other. -/
def mulTimes (y : Extended) : Nat → Extended → Extended
  | 0, x => x
  | n + 1, x => mulTimes y n (x.mul y)

/-- The power of ten of so many places up or down. -/
def powerOfTen (down : Bool) (places : Nat) : Extended :=
  if down then nearest 1 (Nat.pow 10 places) 0 else nearest (Nat.pow 10 places) 1 0

/-- The bits of the floating point number that is infinite. -/
def infinity : Nat := 0x7FF0000000000000

/-- The floating point number nearest to a positive number. A number
past the greatest one is infinite. -/
def toFloat (x : Extended) : Float :=
  let place : Int := max (-1074) (x.exponent + x.mantissa.log2 - 52)
  let up := Nat.pow 2 (x.exponent - place).toNat
  let down := Nat.pow 2 (place - x.exponent).toNat
  let rounded := roundEven (x.mantissa * up) down
  let bits := (place + 1074).toNat * 0x10000000000000 + rounded
  let isPast := infinity ≤ bits || (bits + 1 == infinity && rounded * down < x.mantissa * up)
  Float.ofBits (UInt64.ofNat (if isPast then infinity else bits))

end Extended

namespace Decimal

/-- A number from here on has no room for one more digit. -/
def gatherLimit : Nat := 1844674407370955160

/-- Appends digits to a number as long as there is room: the number,
and how many digits were left. -/
def gather : Nat → List Nat → Nat × Nat
  | n, [] => (n, 0)
  | n, d :: ds => if n < gatherLimit then gather (10 * n + d) ds else (n, ds.length + 1)

/-- Moves places from an exponent into the number as long as there is
room. -/
def fill : Nat → Nat → Nat × Nat
  | n, 0 => (n, 0)
  | n, e + 1 => if n ≤ gatherLimit then fill (10 * n) e else (n, e + 1)

/-- Moves places below the point out of a number as long as its last
digit is zero. -/
def strip : Nat → Nat → Nat × Nat
  | n, 0 => (n, 0)
  | n, e + 1 => if n % 10 = 0 then strip (n / 10) e else (n, e + 1)

/-- From so many places on a number of 64 bits is zero or infinite. -/
def placesLimit : Nat := 10000

/-- The positive number `n`, moved by so many places up or down. -/
def moved (down : Bool) (n places : Nat) : Float :=
  let places := min places placesLimit
  let by100 := Extended.mulTimes (.powerOfTen down 100) (places / 100)
  let by10 := Extended.mulTimes (.powerOfTen down 10) (places % 100 / 10)
  let by1 := Extended.mulTimes (.powerOfTen down 1) (places % 10)
  (by1 (by10 (by100 ⟨n, 0⟩))).toFloat

/-- The value of the digits before and after the point and the
exponent. -/
def scaled (whole fraction : List Nat) (exponent : Int) : Float :=
  let (n, skipped) := gather 0 whole
  let (n, left) := gather n fraction
  let place := exponent + skipped - (fraction.length - left : Nat)
  if n = 0 then 0
  else if place < 0 then
    let (n, places) := strip n place.natAbs
    moved true n places
  else
    let (n, places) := fill n place.toNat
    moved false n places

end Decimal

end DataAccess
