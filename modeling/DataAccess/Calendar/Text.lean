import DataAccess.Calendar.Basic
import DataAccess.Text.Blank
import DataAccess.Text.Digits

/-!
# `DataAccess.Calendar.Text`: dates and times as text

How dates, times and moments are written, and which texts are read as
one.

Written: `2024-02-29`, `01:02:03.500`, `2024-02-29T01:02:03+00:00`. A
year outside 0 to 9999 has a sign and at least four digits. The
fraction of a second has three, six or nine digits, the fewest that
are exact, or is left out when zero. A leap second is written as the second
after the one that it follows: at the end of a minute as second 60, and
anywhere else like the second that comes next.

Read: the same texts, and more. `Date.read?` and `TimeOfDay.read?`
let blanks stand before every number and take numbers with fewer
digits; a year takes four digits at most unless it has a sign. Of a
fraction nine digits count. `Moment.read?` reads a moment with all its
digits and an offset from UTC, or else a date and a time of UTC.
-/

set_option autoImplicit false

namespace DataAccess

open Text (trimStart)

/-! ## Writing -/

/-- The last `width` decimal digits of `n`. -/
def Calendar.fixedDigits : Nat → Nat → List Char
  | 0, _ => []
  | width + 1, n => Calendar.fixedDigits width (n / 10) ++ [Nat.digitChar (n % 10)]

/-- A year, with a sign unless it has at most four digits and is not
negative. -/
def Calendar.yearChars (year : Int) : List Char :=
  if 0 ≤ year ∧ year ≤ 9999 then Calendar.fixedDigits 4 year.toNat
  else
    (if year < 0 then '-' else '+') ::
      (if year.natAbs ≤ 9999 then Calendar.fixedDigits 4 year.natAbs
       else Nat.toDigits 10 year.natAbs)

/-- The fraction of a second, with its point. -/
def Calendar.fractionChars (nano : Nat) : List Char :=
  if nano = 0 then []
  else if nano % 1000000 = 0 then '.' :: Calendar.fixedDigits 3 (nano / 1000000)
  else if nano % 1000 = 0 then '.' :: Calendar.fixedDigits 6 (nano / 1000)
  else '.' :: Calendar.fixedDigits 9 nano

/-- A date as `year-month-day`. -/
def Date.chars (d : Date) : List Char :=
  Calendar.yearChars d.year ++ '-' :: Calendar.fixedDigits 2 d.month
    ++ '-' :: Calendar.fixedDigits 2 d.day

/-- A time as `hour:minute:second`, with a fraction if it has one. -/
def TimeOfDay.chars (t : TimeOfDay) : List Char :=
  let leap := 1000000000 ≤ t.nano
  Calendar.fixedDigits 2 t.hour ++ ':' :: Calendar.fixedDigits 2 t.minute
    ++ ':' :: Calendar.fixedDigits 2 (if leap then t.second + 1 else t.second)
    ++ Calendar.fractionChars (if leap then t.nano - 1000000000 else t.nano)

/-- The text of a date. -/
def Date.text (d : Date) : String :=
  String.ofList d.chars

/-- The text of a time. -/
def TimeOfDay.text (t : TimeOfDay) : String :=
  String.ofList t.chars

/-- The text of a moment, with the offset of UTC. -/
def Moment.text (m : Moment) : String :=
  String.ofList (m.date.chars ++ 'T' :: m.time.chars ++ "+00:00".toList)

/-! ## Reading -/

namespace Calendar

/-- What reads something at the start of a text and leaves the text
after it. -/
abbrev Reader (α : Type) := StateT (List Char) Option α

/-- The number that `digits` write. -/
def numberOf (digits : List Char) : Nat :=
  digits.foldl (fun n c => 10 * n + (c.toNat - '0'.toNat)) 0

/-- The digits at the start of a text, at least one and at most
`width`, as a number. -/
def number (width : Nat) : Reader Nat := fun cs =>
  let digits := (cs.take width).takeWhile Char.isDigit
  if digits.isEmpty then none
  else some (numberOf digits, cs.drop digits.length)

/-- The next character, if it is `c`. -/
def char (c : Char) : Reader Unit
  | d :: cs => if d = c then some ((), cs) else none
  | [] => none

/-- Any blanks. -/
def blanks : Reader Unit := fun cs =>
  some ((), trimStart cs)

/-- Blanks, then a number of at most two digits. -/
def twoDigits : Reader Nat := do
  blanks
  number 2

/-- A year: after a sign any number of digits, else at most four. -/
def signedYear : Reader Int
  | '-' :: cs => do let (n, cs) ← number cs.length cs; some (-(n : Int), cs)
  | '+' :: cs => do let (n, cs) ← number cs.length cs; some ((n : Int), cs)
  | cs => do let (n, cs) ← number 4 cs; some ((n : Int), cs)

/-- A fraction of a second, if a point comes next: at least one digit,
of which nine count. -/
def fraction : Reader Nat
  | '.' :: cs =>
    let digits := cs.takeWhile Char.isDigit
    let counted := digits.take 9
    if digits.isEmpty then none
    else some (numberOf counted * Nat.pow 10 (9 - counted.length), cs.drop digits.length)
  | cs => some (0, cs)

/-- The time of day with the given parts, where second 60 is a leap
second. -/
def timeOf? (hour minute second nano : Nat) : Option TimeOfDay :=
  if second = 60 then TimeOfDay.of? hour minute 59 (nano + 1000000000)
  else TimeOfDay.of? hour minute second nano

/-- A date. -/
def date : Reader Date := do
  blanks
  let year ← signedYear
  char '-'
  let month ← twoDigits
  char '-'
  let day ← twoDigits
  Date.of? year month day

/-- A time of day. -/
def time : Reader TimeOfDay := do
  let hour ← twoDigits
  char ':'
  let minute ← twoDigits
  char ':'
  let second ← twoDigits
  let nano ← fraction
  timeOf? hour minute second nano

/-- What `r` reads, if it reads the whole text. -/
def whole? {α : Type} (r : Reader α) (s : String) : Option α :=
  match r s.toList with
  | some (a, []) => some a
  | _ => none

/-- A number of exactly `width` digits. -/
def exactly (width : Nat) : Reader Nat := fun cs =>
  let digits := cs.take width
  if digits.length = width ∧ digits.all Char.isDigit then
    some (numberOf digits, cs.drop width)
  else none

/-- One character out of `allowed`. -/
def oneOf (allowed : List Char) : Reader Char
  | c :: cs => if allowed.contains c then some (c, cs) else none
  | [] => none

/-- An offset from UTC, in minutes: `Z`, or a sign, two digits of
hours, a colon and two digits of minutes. -/
def offset : Reader Int := do
  let c ← oneOf ['Z', 'z', '+', '-', '\u2212']
  if c = 'Z' ∨ c = 'z' then return 0
  let hours ← exactly 2
  char ':'
  let minutes ← exactly 2
  if hours < 24 ∧ minutes < 60 then
    let total : Int := 60 * hours + minutes
    return if c = '+' then total else -total
  else failure

/-- A moment with its offset: date and time with full digits, between
them a `T` or one space. -/
def offsetMoment : Reader Moment := do
  let year ← exactly 4
  char '-'
  let month ← exactly 2
  char '-'
  let day ← exactly 2
  let _ ← oneOf ['T', 't', ' ']
  let hour ← exactly 2
  char ':'
  let minute ← exactly 2
  char ':'
  let second ← exactly 2
  let nano ← fraction
  let minutes ← offset
  let date ← Date.of? year month day
  let time ← timeOf? hour minute second nano
  Moment.shift? ⟨date, time⟩ (-minutes)

/-- A moment of UTC: a date, blanks and a time. -/
def plainMoment : Reader Moment := do
  let date ← date
  blanks
  let time ← time
  return ⟨date, time⟩

end Calendar

/-- The date that a text writes. -/
def Date.read? (s : String) : Option Date :=
  Calendar.whole? Calendar.date s

/-- The time of day that a text writes. -/
def TimeOfDay.read? (s : String) : Option TimeOfDay :=
  Calendar.whole? Calendar.time s

/-- The moment that a text writes, with an offset from UTC or, if it
is no such text, without one. -/
def Moment.read? (s : String) : Option Moment :=
  (Calendar.whole? Calendar.offsetMoment s).orElse fun _ =>
    Calendar.whole? Calendar.plainMoment s

end DataAccess
