/-!
# `DataAccess.Calendar.Basic`: dates and times of day

Dates of the Gregorian calendar, extended to all years, times of day
to the nanosecond, and the two together as a moment of universal time.
The types hold valid dates and times only.

A leap second is the nanosecond part of a time from a whole second on: it
comes after the second that the time names. Those that are announced end a
minute and come after second 59, and a time is only made of parts with such
a one; the type has room for one after any second, as offsets from UTC need
not be whole minutes.

* `Date.of?`, `TimeOfDay.of?`: a date or time from its parts.
* `TimeOfDay.Regular`: a leap second, if it is one, ends its minute.
* `Date.next?`, `Date.previous?`: the neighbouring days.
* `Moment.shift?`: a moment moved by minutes.
-/

set_option autoImplicit false

namespace DataAccess

/-- The years in which February has 29 days. -/
def Calendar.isLeapYear (year : Int) : Bool :=
  year % 4 == 0 && (year % 100 != 0 || year % 400 == 0)

/-- The number of days of a month, counted from 1. -/
def Calendar.daysInMonth (year : Int) (month : Nat) : Nat :=
  match month with
  | 2 => if Calendar.isLeapYear year then 29 else 28
  | 4 | 6 | 9 | 11 => 30
  | _ => 31

/-- The least and the greatest year of a date. -/
def Calendar.yearRange : Int × Int := (-262143, 262142)

/-- Year, month and day that make a date. -/
def Calendar.IsDate (year : Int) (month day : Nat) : Prop :=
  (Calendar.yearRange.1 ≤ year ∧ year ≤ Calendar.yearRange.2)
    ∧ (1 ≤ month ∧ month ≤ 12) ∧ 1 ≤ day ∧ day ≤ Calendar.daysInMonth year month

instance (year : Int) (month day : Nat) : Decidable (Calendar.IsDate year month day) :=
  inferInstanceAs (Decidable (_ ∧ _))

/-- Hour, minute, second and nanosecond that make a time of day. -/
def Calendar.IsTime (hour minute second nano : Nat) : Prop :=
  hour < 24 ∧ minute < 60 ∧ second < 60 ∧ nano < 2000000000

instance (hour minute second nano : Nat) :
    Decidable (Calendar.IsTime hour minute second nano) :=
  inferInstanceAs (Decidable (_ ∧ _))

/-- A day of the calendar. -/
structure Date where
  /-- The year; the year before 1 is 0. -/
  year : Int
  /-- The month, from 1 to 12. -/
  month : Nat
  /-- The day of the month, from 1. -/
  day : Nat
  /-- There is such a day. -/
  valid : Calendar.IsDate year month day
  deriving DecidableEq

/-- A time of day. -/
@[ext]
structure TimeOfDay where
  /-- Hours since midnight. -/
  hour : Nat
  /-- Minutes of the hour. -/
  minute : Nat
  /-- Seconds of the minute. -/
  second : Nat
  /-- Nanoseconds of the second; from a whole second on, those of a leap second
  after it. -/
  nano : Nat
  /-- There is such a time. -/
  valid : Calendar.IsTime hour minute second nano
  deriving DecidableEq

/-- A moment, as date and time in UTC. -/
structure Moment where
  /-- The day. -/
  date : Date
  /-- The time of that day. -/
  time : TimeOfDay
  deriving DecidableEq

/-- The date with the given parts, if there is one. -/
def Date.of? (year : Int) (month day : Nat) : Option Date :=
  if h : Calendar.IsDate year month day then some ⟨year, month, day, h⟩ else none

/-- A leap second, if it is one, ends its minute. -/
def TimeOfDay.Regular (t : TimeOfDay) : Prop :=
  t.nano < 1000000000 ∨ t.second = 59

instance (t : TimeOfDay) : Decidable t.Regular :=
  inferInstanceAs (Decidable (_ ∨ _))

/-- The time with the given parts, if there is one and it is regular. -/
def TimeOfDay.of? (hour minute second nano : Nat) : Option TimeOfDay :=
  if h : Calendar.IsTime hour minute second nano then
    let t : TimeOfDay := ⟨hour, minute, second, nano, h⟩
    if t.Regular then some t else none
  else none

/-- The day after, unless it is past the last year. -/
def Date.next? (d : Date) : Option Date :=
  if d.day < Calendar.daysInMonth d.year d.month then Date.of? d.year d.month (d.day + 1)
  else if d.month < 12 then Date.of? d.year (d.month + 1) 1
  else Date.of? (d.year + 1) 1 1

/-- The day before, unless it is before the first year. -/
def Date.previous? (d : Date) : Option Date :=
  if 1 < d.day then Date.of? d.year d.month (d.day - 1)
  else if 1 < d.month then
    Date.of? d.year (d.month - 1) (Calendar.daysInMonth d.year (d.month - 1))
  else Date.of? (d.year - 1) 12 31

/-- The time with the same second, at a minute of the day that wraps around
midnight. -/
def TimeOfDay.atMinute (t : TimeOfDay) (ofDay : Nat) : TimeOfDay where
  hour := ofDay % 1440 / 60
  minute := ofDay % 1440 % 60
  second := t.second
  nano := t.nano
  valid := ⟨by omega, by omega, t.valid.2.2⟩

/-- The moment `minutes` later, for less than a day in either
direction. Seconds, and leap seconds with them, stay as they are. -/
def Moment.shift? (m : Moment) (minutes : Int) : Option Moment := do
  let total : Int := 60 * m.time.hour + m.time.minute + minutes
  let date ←
    if total < 0 then m.date.previous?
    else if 1440 ≤ total then m.date.next?
    else some m.date
  return ⟨date, m.time.atMinute (total % 1440).toNat⟩

end DataAccess
