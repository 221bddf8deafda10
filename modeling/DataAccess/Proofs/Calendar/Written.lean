import DataAccess.Calendar.Text
import Mathlib.Algebra.Group.Nat.Defs
import Mathlib.Data.List.TakeWhile

/-!
# `DataAccess.Proofs.Calendar.Written`: dates and times are read as written

A date is written with all its digits, a time with a fraction that is as
short as is exact, and a moment with the offset of UTC. For the years of
four digits a date is read as what it was written for (`Date.read?_text`).

Times and moments are, too, if a leap second in them ends its minute: it is
written as second 60, and nothing else is. A leap second anywhere else is
written like the second that comes next, and is read as that one.
`TimeOfDay.settled` is the time that is read in any case
(`TimeOfDay.read?_text`, `Moment.read?_text`), so that only regular times
come back as they were (`TimeOfDay.read?_text_eq_self_iff`).

Readers take a text from its start. Their lemmas say what is left of a
text that goes on (`rest`), so that they can be put together by
`Calendar.exec_bind_read`.
-/

set_option autoImplicit false

namespace DataAccess

namespace Calendar

variable {α β : Type}

/-! ### Digits -/

/-- There are as many digits as were asked for. -/
theorem length_fixedDigits (width n : Nat) : (fixedDigits width n).length = width := by
  induction width generalizing n with
  | zero => rfl
  | succ width ih => rw [fixedDigits, List.length_append, ih, List.length_singleton]

/-- The character of a digit is one. -/
theorem isDigit_digitChar {d : Nat} (h : d < 10) : (Nat.digitChar d).isDigit = true := by
  have hall : ∀ d < 10, (Nat.digitChar d).isDigit = true := by decide
  exact hall d h

/-- Nothing but digits is written. -/
theorem isDigit_of_mem_fixedDigits {width n : Nat} {c : Char} (h : c ∈ fixedDigits width n) :
    c.isDigit = true := by
  induction width generalizing n with
  | zero => cases h
  | succ width ih =>
      rw [fixedDigits, List.mem_append, List.mem_singleton] at h
      -- The last digit is written for itself, the earlier ones for the rest of the
      -- number.
      rcases h with hearlier | rfl
      · exact ih hearlier
      · exact isDigit_digitChar (by omega)

/-- Digits are read as the number they were written for, if it has no
more of them. -/
theorem numberOf_fixedDigits {width n : Nat} (h : n < 10 ^ width) :
    numberOf (fixedDigits width n) = n := by
  induction width generalizing n with
  | zero =>
      have hzero : n = 0 := by simpa using h
      rw [hzero]
      rfl
  | succ width ih =>
      -- The last digit is the remainder, and those before it write the quotient.
      have hten : n / 10 < 10 ^ width := by
        rw [Nat.pow_succ] at h
        omega
      have hearlier := ih hten
      rw [numberOf] at hearlier
      rw [fixedDigits, numberOf, List.foldl_append, hearlier, List.foldl_cons, List.foldl_nil,
        Nat.toNat_digitChar_of_lt_ten (by omega)]
      show 10 * (n / 10) + (48 + n % 10 - 48) = n
      omega

/-! ### Readers -/

/-- What is read first is given to what reads on. -/
theorem exec_bind_read {r : Reader α} {f : α → Reader β} {cs rest : List Char} {a : α}
    (h : r cs = some (a, rest)) : (r >>= f) cs = f a rest := by
  show (r cs).bind (fun p => f p.1 p.2) = _
  rw [h]
  rfl

/-- A value that is there is taken without reading anything. -/
theorem exec_liftM {o : Option α} {a : α} (h : o = some a) (cs : List Char) :
    (liftM o : Reader α) cs = some (a, cs) := by
  rw [h]
  rfl

/-- The character that is wanted is read. -/
theorem char_read (c : Char) (rest : List Char) : char c (c :: rest) = some ((), rest) :=
  if_pos rfl

/-- A digit is not a blank, of which there are few below it. -/
theorem not_isBlank_of_isDigit {c : Char} (h : c.isDigit = true) : Text.isBlank c = false := by
  have hbounds : 48 ≤ c.toNat ∧ c.toNat ≤ 57 := by
    simpa [Char.isDigit, UInt32.le_iff_toNat_le] using h
  simp only [Text.isBlank]
  simp
  omega

section Fixed
variable {width n : Nat} (h : n < 10 ^ (width + 1)) (rest : List Char)

/-- The first of some digits. -/
theorem fixedDigits_cons (width n : Nat) :
    ∃ c cs, fixedDigits (width + 1) n = c :: cs ∧ c.isDigit = true := by
  obtain ⟨c, cs, hcs⟩ := List.exists_cons_of_length_eq_add_one (length_fixedDigits (width + 1) n)
  exact ⟨c, cs, hcs, isDigit_of_mem_fixedDigits (hcs ▸ List.mem_cons_self)⟩

include h

/-- A number is read from its digits, and the rest is left. -/
theorem number_fixedDigits :
    number (width + 1) (fixedDigits (width + 1) n ++ rest) = some (n, rest) := by
  -- As many digits are taken as there may be, and all that is taken is digits.
  have htake : ((fixedDigits (width + 1) n ++ rest).take (width + 1)).takeWhile Char.isDigit
      = fixedDigits (width + 1) n := by
    rw [List.take_left' (length_fixedDigits _ _), List.takeWhile_eq_self_iff]
    exact fun c hc => isDigit_of_mem_fixedDigits hc
  obtain ⟨c, cs, hcs, -⟩ := fixedDigits_cons width n
  have hsome : (fixedDigits (width + 1) n).isEmpty = false := by rw [hcs]; rfl
  rw [number]
  simp only [htake, hsome, numberOf_fixedDigits h, List.drop_left' rfl]
  rfl

/-- A number of an exact length is read from its digits. -/
theorem exactly_fixedDigits :
    exactly (width + 1) (fixedDigits (width + 1) n ++ rest) = some (n, rest) := by
  have hdigits : (fixedDigits (width + 1) n).all Char.isDigit = true :=
    List.all_eq_true.mpr fun c hc => isDigit_of_mem_fixedDigits hc
  rw [exactly]
  simp only [List.take_left' (length_fixedDigits (width + 1) n),
    List.drop_left' (length_fixedDigits (width + 1) n), length_fixedDigits, hdigits,
    numberOf_fixedDigits h, and_self, if_true]

end Fixed

/-- Blanks are passed over, and digits are none. -/
theorem blanks_fixedDigits (width n : Nat) (rest : List Char) :
    blanks (fixedDigits (width + 1) n ++ rest) = some ((), fixedDigits (width + 1) n ++ rest) := by
  obtain ⟨c, cs, hcs, hdigit⟩ := fixedDigits_cons width n
  rw [hcs, blanks, Text.trimStart, List.cons_append, List.dropWhile_cons_of_neg]
  rw [not_isBlank_of_isDigit hdigit]
  exact Bool.false_ne_true

/-- Two digits, with no blanks before them. -/
theorem twoDigits_fixedDigits {n : Nat} (h : n < 100) (rest : List Char) :
    twoDigits (fixedDigits 2 n ++ rest) = some (n, rest) :=
  (exec_bind_read (blanks_fixedDigits 1 n rest)).trans (number_fixedDigits h rest)

/-- A year of four digits is read without a sign. -/
theorem signedYear_fixedDigits {n : Nat} (h : n < 10000) (rest : List Char) :
    signedYear (fixedDigits 4 n ++ rest) = some ((n : Int), rest) := by
  have hnumber : number 4 (fixedDigits 4 n ++ rest) = some (n, rest) := number_fixedDigits h rest
  obtain ⟨c, cs, hcs, hdigit⟩ := fixedDigits_cons 3 n
  rw [hcs, List.cons_append] at hnumber ⊢
  unfold signedYear
  split
  · -- A digit is no sign.
    rename_i hsign
    obtain ⟨rfl, -⟩ := List.cons.inj hsign
    exact absurd hdigit (by decide)
  · rename_i hsign
    obtain ⟨rfl, -⟩ := List.cons.inj hsign
    exact absurd hdigit (by decide)
  · rw [hnumber]
    rfl

/-! ### Times -/

/-- A text goes on with something that belongs to no number. -/
def Stops (rest : List Char) : Prop :=
  ∀ c ∈ rest.head?, c.isDigit = false ∧ c ≠ '.'

/-- At the end of a text there are no more digits. -/
theorem stops_nil : Stops [] :=
  fun _ hc => by cases hc

/-- Where no fraction begins, it is zero, and nothing is read. -/
theorem fraction_of_stops {rest : List Char} (h : Stops rest) :
    fraction rest = some (0, rest) := by
  unfold fraction
  split
  · exact absurd rfl (h '.' rfl).2
  · rfl

/-- Digits of a fraction count in their places. -/
theorem fraction_fixedDigits {width n nano : Nat} (hwidth : width + 1 ≤ 9)
    (h : n < 10 ^ (width + 1)) (hnano : n * 10 ^ (9 - (width + 1)) = nano) {rest : List Char}
    (hrest : Stops rest) :
    fraction ('.' :: fixedDigits (width + 1) n ++ rest) = some (nano, rest) := by
  -- The digits end where they were written to, as no digit comes next.
  have htake : (fixedDigits (width + 1) n ++ rest).takeWhile Char.isDigit
      = fixedDigits (width + 1) n := by
    rw [List.takeWhile_append_of_pos fun c hc => isDigit_of_mem_fixedDigits hc]
    cases rest with
    | nil => rw [List.takeWhile_nil, List.append_nil]
    | cons c cs =>
        rw [List.takeWhile_cons_of_neg (by rw [(hrest c rfl).1]; exact Bool.false_ne_true),
          List.append_nil]
  -- Of nine digits or fewer each one counts.
  have hcounted : (fixedDigits (width + 1) n).take 9 = fixedDigits (width + 1) n :=
    List.take_of_length_le (by rw [length_fixedDigits]; omega)
  obtain ⟨c, cs, hcs, -⟩ := fixedDigits_cons width n
  have hsome : (fixedDigits (width + 1) n).isEmpty = false := by rw [hcs]; rfl
  rw [List.cons_append, ← hnano]
  simp only [fraction, htake, hcounted, hsome, numberOf_fixedDigits h, length_fixedDigits,
    List.drop_left' (length_fixedDigits (width + 1) n)]
  rfl

/-- A fraction is read exactly, with as many digits as it has. -/
theorem fraction_fractionChars {nano : Nat} (h : nano < 1000000000) {rest : List Char}
    (hrest : Stops rest) : fraction (fractionChars nano ++ rest) = some (nano, rest) := by
  unfold fractionChars
  split
  · -- There is none.
    rename_i hzero
    rw [hzero]
    exact fraction_of_stops hrest
  split
  · -- Milliseconds.
    exact fraction_fixedDigits (by omega) (by omega) (by omega) hrest
  split
  · -- Microseconds.
    exact fraction_fixedDigits (by omega) (by omega) (by omega) hrest
  · -- Nanoseconds.
    exact fraction_fixedDigits (by omega) (by omega) (by omega) hrest

/-- The second that is written; a leap second is the 60th. -/
def writtenSecond (t : TimeOfDay) : Nat :=
  if 1000000000 ≤ t.nano then t.second + 1 else t.second

/-- The part of a second that is written. -/
def writtenNano (t : TimeOfDay) : Nat :=
  if 1000000000 ≤ t.nano then t.nano - 1000000000 else t.nano

/-- A regular time is made of its own parts. -/
theorem time_of_parts {t : TimeOfDay} (h : t.Regular) :
    TimeOfDay.of? t.hour t.minute t.second t.nano = some t :=
  (dif_pos t.valid).trans (if_pos h)

/-- A regular time is the one of its parts as they are written, also in a
leap second. -/
theorem timeOf?_written {t : TimeOfDay} (h : t.Regular) :
    timeOf? t.hour t.minute (writtenSecond t) (writtenNano t) = some t := by
  obtain ⟨-, -, hsecond, hnano⟩ := t.valid
  unfold timeOf? writtenSecond writtenNano
  by_cases hleap : 1000000000 ≤ t.nano
  · -- Only the last second of a minute is followed by a regular leap second.
    have hlast : t.second = 59 := h.resolve_left (by omega)
    rw [if_pos hleap, if_pos hleap, if_pos (by omega), Nat.sub_add_cancel hleap, ← hlast]
    exact time_of_parts h
  · -- Any other second is not the 60th.
    rw [if_neg hleap, if_neg hleap, if_neg (by omega)]
    exact time_of_parts h

/-- A second is written in two digits, also when it is the sixtieth. -/
theorem writtenSecond_lt (t : TimeOfDay) : writtenSecond t < 100 := by
  obtain ⟨-, -, hsecond, -⟩ := t.valid
  unfold writtenSecond
  split <;> omega

/-- What is written after the point is less than a second. -/
theorem writtenNano_lt (t : TimeOfDay) : writtenNano t < 1000000000 := by
  obtain ⟨-, -, -, hnano⟩ := t.valid
  unfold writtenNano
  split <;> omega

/-- A time as it is written, part by part. -/
theorem chars_time (t : TimeOfDay) (rest : List Char) :
    t.chars ++ rest
      = fixedDigits 2 t.hour ++ ':' :: (fixedDigits 2 t.minute ++ ':' ::
          (fixedDigits 2 (writtenSecond t) ++ (fractionChars (writtenNano t) ++ rest))) := by
  simp only [TimeOfDay.chars, writtenSecond, writtenNano, List.append_assoc, List.cons_append]

/-- A regular time is read as it was written, up to what is no number. -/
theorem time_chars {t : TimeOfDay} (h : t.Regular) {rest : List Char} (hrest : Stops rest) :
    time (t.chars ++ rest) = some (t, rest) := by
  obtain ⟨hhour, hminute, -, -⟩ := t.valid
  -- Each part leaves the colon and the next one, and the fraction what stops it.
  rw [chars_time, time, exec_bind_read (twoDigits_fixedDigits (by omega) _),
    exec_bind_read (char_read ':' _), exec_bind_read (twoDigits_fixedDigits (by omega) _),
    exec_bind_read (char_read ':' _),
    exec_bind_read (twoDigits_fixedDigits (writtenSecond_lt t) _),
    exec_bind_read (fraction_fractionChars (writtenNano_lt t) hrest)]
  exact exec_liftM (timeOf?_written h) rest

/-! ### Dates -/

section Dates
variable {d : Date} (h : 0 ≤ d.year ∧ d.year ≤ 9999) (rest : List Char)

/-- The parts of a date make that date. -/
theorem date_of_parts (d : Date) : Date.of? d.year d.month d.day = some d :=
  dif_pos d.valid

/-- The parts of a date have at most two digits. -/
theorem month_day_lt (d : Date) : d.month < 100 ∧ d.day < 100 := by
  obtain ⟨-, ⟨-, hmonth⟩, -, hday⟩ := d.valid
  -- No month has more than 31 days.
  have hdays : daysInMonth d.year d.month ≤ 31 := by
    unfold daysInMonth
    split
    · split <;> omega
    all_goals omega
  omega

include h

/-- A date as it is written, part by part. -/
theorem chars_date :
    d.chars ++ rest
      = fixedDigits 4 d.year.toNat ++ '-' :: (fixedDigits 2 d.month ++ '-' ::
          (fixedDigits 2 d.day ++ rest)) := by
  simp only [Date.chars, yearChars, if_pos h, List.append_assoc, List.cons_append]

/-- A date of a short year is read from its text. -/
theorem date_chars : date (d.chars ++ rest) = some (d, rest) := by
  have hparts := month_day_lt d
  have hyear : (d.year.toNat : Int) = d.year := Int.toNat_of_nonneg h.1
  -- Blanks, year, dash, month, dash, day: each part leaves what comes after it.
  rw [chars_date h, date, exec_bind_read (blanks_fixedDigits 3 _ _),
    exec_bind_read (signedYear_fixedDigits (by omega) _), exec_bind_read (char_read '-' _),
    exec_bind_read (twoDigits_fixedDigits hparts.1 _), exec_bind_read (char_read '-' _),
    exec_bind_read (twoDigits_fixedDigits hparts.2 _), hyear]
  exact exec_liftM (date_of_parts d) rest

end Dates

/-! ### Moments -/

/-- The offset of UTC belongs to no number. -/
theorem stops_utc : Stops "+00:00".toList :=
  fun _ hc => by
    obtain rfl := Option.some.inj hc
    decide

/-- The offset of universal time is zero. -/
theorem offset_utc : offset "+00:00".toList = some (0, []) :=
  rfl

/-- A moment of its own offset stays where it is. -/
theorem shift?_zero (m : Moment) : m.shift? (-0) = some m := by
  obtain ⟨hhour, hminute, -, -⟩ := m.time.valid
  have htotal : (60 * m.time.hour + m.time.minute + -0 : Int)
      = (60 * m.time.hour + m.time.minute : Nat) := by omega
  have hofDay : ((60 * m.time.hour + m.time.minute : Nat) % 1440 : Int).toNat
      = 60 * m.time.hour + m.time.minute := by omega
  have hsame : m.time.atMinute (60 * m.time.hour + m.time.minute) = m.time := by
    apply TimeOfDay.ext
    · show (60 * m.time.hour + m.time.minute) % 1440 / 60 = m.time.hour
      omega
    · show (60 * m.time.hour + m.time.minute) % 1440 % 60 = m.time.minute
      omega
    · rfl
    · rfl
  unfold Moment.shift?
  simp only [htotal, hofDay, hsame]
  -- The minutes are those of the same day.
  rw [if_neg (by omega), if_neg (by omega)]
  rfl

/-- A moment of a short year with a regular time is read from its text. -/
theorem offsetMoment_chars {m : Moment} (h : 0 ≤ m.date.year ∧ m.date.year ≤ 9999)
    (htime : m.time.Regular) :
    offsetMoment (m.date.chars ++ 'T' :: m.time.chars ++ "+00:00".toList) = some (m, []) := by
  obtain ⟨hhour, hminute, -, -⟩ := m.time.valid
  have hparts := month_day_lt m.date
  have hyear : (m.date.year.toNat : Int) = m.date.year := Int.toNat_of_nonneg h.1
  have hbetween : ∀ rest, oneOf ['T', 't', ' '] ('T' :: rest) = some ('T', rest) := fun _ => rfl
  -- The parts are read in the order in which they stand in the text.
  rw [List.append_assoc, List.cons_append, chars_date h, chars_time, offsetMoment,
    exec_bind_read (exactly_fixedDigits (by omega) _), exec_bind_read (char_read '-' _),
    exec_bind_read (exactly_fixedDigits hparts.1 _), exec_bind_read (char_read '-' _),
    exec_bind_read (exactly_fixedDigits hparts.2 _), exec_bind_read (hbetween _),
    exec_bind_read (exactly_fixedDigits (by omega) _), exec_bind_read (char_read ':' _),
    exec_bind_read (exactly_fixedDigits (by omega) _), exec_bind_read (char_read ':' _),
    exec_bind_read (exactly_fixedDigits (writtenSecond_lt m.time) _),
    exec_bind_read (fraction_fractionChars (writtenNano_lt m.time) stops_utc),
    exec_bind_read offset_utc, hyear, exec_bind_read (exec_liftM (date_of_parts m.date) _),
    exec_bind_read (exec_liftM (timeOf?_written htime) _)]
  exact exec_liftM (shift?_zero m) []

/-! ### Whole texts -/

/-- What a reader makes of all characters is read of the whole text. -/
theorem whole?_ofList {r : Reader α} {cs : List Char} {a : α} (h : r cs = some (a, [])) :
    whole? r (String.ofList cs) = some a := by
  rw [whole?, String.toList_ofList, h]

end Calendar

/-! ### What comes back -/

namespace TimeOfDay

/-- A second with an irregular leap second after it is not the last of its
minute. -/
theorem second_lt_of_not_regular {t : TimeOfDay} (h : ¬ t.Regular) : t.second + 1 < 60 := by
  obtain ⟨-, -, hsecond, -⟩ := t.valid
  have hne : t.second ≠ 59 := fun heq => h (.inr heq)
  omega

/-- The time that is read where this one was written: a leap second that
does not end its minute is taken for the second that comes next. -/
def settled (t : TimeOfDay) : TimeOfDay where
  hour := t.hour
  minute := t.minute
  second := if t.Regular then t.second else t.second + 1
  nano := if t.Regular then t.nano else t.nano - 1000000000
  valid := by
    obtain ⟨hhour, hminute, hsecond, hnano⟩ := t.valid
    refine ⟨hhour, hminute, ?_, ?_⟩
    · split
      · exact hsecond
      · rename_i h
        exact second_lt_of_not_regular h
    · split <;> omega

/-- A time is regular just if it settles to itself. -/
theorem settled_eq_self_iff {t : TimeOfDay} : t.settled = t ↔ t.Regular := by
  refine ⟨fun h => ?_, fun h => TimeOfDay.ext rfl rfl (if_pos h) (if_pos h)⟩
  by_contra hnot
  have hsecond : t.settled.second = t.second + 1 := if_neg hnot
  rw [h] at hsecond
  exact Nat.succ_ne_self _ hsecond.symm

/-- A time has settled once and for all. -/
theorem regular_settled (t : TimeOfDay) : t.settled.Regular := by
  by_cases h : t.Regular
  · rwa [settled_eq_self_iff.mpr h]
  · -- What is left of the leap second is less than a second.
    obtain ⟨-, -, -, hnano⟩ := t.valid
    refine .inl ?_
    simp only [settled, if_neg h]
    omega

/-- Both are written alike. -/
theorem chars_settled (t : TimeOfDay) : t.settled.chars = t.chars := by
  by_cases h : t.Regular
  · rw [settled_eq_self_iff.mpr h]
  · obtain ⟨-, -, -, hnano⟩ := t.valid
    have hleap : 1000000000 ≤ t.nano := Nat.not_lt.mp fun hlt => h (.inl hlt)
    have hbelow : ¬ 1000000000 ≤ t.nano - 1000000000 := by omega
    simp only [chars, settled, if_neg h, if_pos hleap, if_neg hbelow]

/-- A time is read as the one it settles to. -/
theorem read?_text (t : TimeOfDay) : read? t.text = some t.settled := by
  have hread := Calendar.time_chars t.regular_settled Calendar.stops_nil
  rw [List.append_nil, chars_settled] at hread
  exact Calendar.whole?_ofList hread

/-- So just the regular times come back as they were. -/
theorem read?_text_eq_self_iff {t : TimeOfDay} : read? t.text = some t ↔ t.Regular := by
  rw [read?_text, Option.some.injEq, settled_eq_self_iff]

end TimeOfDay

/-- A date of a short year is read from its text. -/
theorem Date.read?_text (d : Date) (h : 0 ≤ d.year ∧ d.year ≤ 9999) :
    Date.read? d.text = some d := by
  have hread := Calendar.date_chars h []
  rw [List.append_nil] at hread
  exact Calendar.whole?_ofList hread

/-- A moment is read as the one that its time settles to, on the same
day. -/
theorem Moment.read?_text (m : Moment) (h : 0 ≤ m.date.year ∧ m.date.year ≤ 9999) :
    Moment.read? m.text = some ⟨m.date, m.time.settled⟩ := by
  have hread := Calendar.offsetMoment_chars (m := ⟨m.date, m.time.settled⟩) h
    m.time.regular_settled
  rw [TimeOfDay.chars_settled] at hread
  -- The text is read with its offset at the first attempt.
  have hoffset : Calendar.whole? Calendar.offsetMoment m.text = some ⟨m.date, m.time.settled⟩ :=
    Calendar.whole?_ofList hread
  rw [Moment.read?, hoffset]
  rfl

end DataAccess
