import SeriesCatalog.Calendar.Timestamp
import SeriesCatalog.Proofs.Dates
import SeriesCatalog.Proofs.Digits

/-! # The grammar of endpoints

An endpoint is a date-time with all its numbers in full width, or a date whose numbers may be short
and have blanks before them. The forms below are the phrases of this grammar, each with its text and
the timestamp it denotes. A text is read as a timestamp exactly when it is the text of a form that
denotes it.
-/

namespace SeriesCatalog.Calendar

open Text

/-- A row of digits, at least one. -/
structure Numeral where
  digits : List Char
  nonempty : digits ≠ []
  decimal : ∀ c ∈ digits, isDigit c = true

def Numeral.value (n : Numeral) : Nat :=
  digitsValue n.digits

/-- A year has up to four digits, or else a sign. -/
inductive YearForm where
  | plain (numeral : Numeral) (short : numeral.digits.length ≤ 4)
  | signed (negative : Bool) (numeral : Numeral)

namespace YearForm

def text : YearForm → List Char
  | plain numeral _ => numeral.digits
  | signed negative numeral => (if negative then '-' else '+') :: numeral.digits

def value : YearForm → Int
  | plain numeral _ => numeral.value
  | signed negative numeral => if negative then -numeral.value else numeral.value

end YearForm

/-- A date, with the blanks before each of its numbers. -/
structure DateForm where
  beforeYear : List Char
  year : YearForm
  beforeMonth : List Char
  month : Numeral
  beforeDay : List Char
  day : Numeral
  blank : Blanks beforeYear ∧ Blanks beforeMonth ∧ Blanks beforeDay
  short : month.digits.length ≤ 2 ∧ day.digits.length ≤ 2
  valid : (⟨year.value, month.value, day.value⟩ : Date).isValid = true
  inCalendar : Date.firstYear ≤ year.value ∧ year.value ≤ Date.lastYear

namespace DateForm

def text (f : DateForm) : List Char :=
  f.beforeYear ++ (f.year.text ++ '-' :: (f.beforeMonth ++ (f.month.digits ++
    '-' :: (f.beforeDay ++ f.day.digits))))

def date (f : DateForm) : Date :=
  ⟨f.year.value, f.month.value, f.day.value⟩

end DateForm

theorem midnight_inCalendar {d : Date} (valid : d.isValid = true)
    (inCalendar : Date.firstYear ≤ d.year ∧ d.year ≤ Date.lastYear) :
    firstSecond ≤ d.dayNumber * 86400 ∧ d.dayNumber * 86400 ≤ lastSecond - 86399 := by
  obtain ⟨first, last⟩ := Date.dayNumber_bounds valid
  have start := daysBeforeYear_mono inCalendar.1
  have stop := daysBeforeYear_mono (Int.add_le_add_right inCalendar.2 1)
  have firstDay : daysBeforeYear Date.firstYear = -95746130 := rfl
  have lastDay : daysBeforeYear (Date.lastYear + 1) = 95745399 := rfl
  unfold firstSecond lastSecond
  unfold daysBeforeEpoch at first last
  omega

/-- The midnight in UTC at which the day begins. -/
def DateForm.timestamp (f : DateForm) : Timestamp where
  instant := .atSecond (f.date.dayNumber * 86400) <| by
    have range := midnight_inCalendar f.valid f.inCalendar
    exact ⟨range.1, Int.le_trans range.2 (by decide)⟩
  offset := 0

/-- The digits behind the point of a second, if there are any. -/
abbrev Fraction := Option Numeral

namespace Fraction

def text : Fraction → List Char
  | none => []
  | some numeral => '.' :: numeral.digits

/-- Whole nanoseconds; what is less than one of them is cut off. -/
def nanos : Fraction → Nat
  | none => 0
  | some numeral => numeral.value * 10 ^ 9 / 10 ^ numeral.digits.length

theorem nanos_lt (f : Fraction) : f.nanos < 1000000000 := by
  cases f with
  | none => decide
  | some numeral =>
    have bound : numeral.value < 10 ^ numeral.digits.length := digitsValue_lt numeral.decimal
    refine (Nat.div_lt_iff_lt_mul (Nat.pow_pos (by decide))).2 ?_
    rw [Nat.mul_comm 1000000000]
    exact Nat.mul_lt_mul_of_pos_right bound (by decide)

end Fraction

/-- A time of day; second 60 is a leap second. -/
structure TimeForm where
  hour : Nat
  minute : Nat
  second : Nat
  fraction : Fraction
  inDay : hour ≤ 23 ∧ minute ≤ 59 ∧ second ≤ 60

namespace TimeForm

def text (f : TimeForm) : List Char :=
  fixedNumeral 2 f.hour ++ ':' :: (fixedNumeral 2 f.minute ++ ':' :: (fixedNumeral 2 f.second ++
    f.fraction.text))

/-- The second of the day that the time lies in; a leap second belongs to the second before. -/
def secondOfDay (f : TimeForm) : Nat :=
  f.hour * 3600 + f.minute * 60 + min f.second 59

def nanos (f : TimeForm) : Nat :=
  f.fraction.nanos + if f.second = 60 then 1000000000 else 0

def midnight : TimeForm :=
  ⟨0, 0, 0, none, by decide⟩

end TimeForm

/-- The sign of an offset; a minus can be written in two ways. -/
inductive OffsetSign where
  | plus
  | hyphen
  | minus

def OffsetSign.char : OffsetSign → Char
  | plus => '+'
  | hyphen => '-'
  | minus => '\u2212'

def OffsetSign.factor : OffsetSign → Int
  | plus => 1
  | hyphen | minus => -1

inductive ZoneForm where
  | letter (small : Bool)
  | shifted (sign : OffsetSign) (hours minutes : Nat) (inDay : hours ≤ 23 ∧ minutes ≤ 59)

namespace ZoneForm

def text : ZoneForm → List Char
  | letter small => [if small then 'z' else 'Z']
  | shifted sign hours minutes _ =>
    sign.char :: (fixedNumeral 2 hours ++ ':' :: fixedNumeral 2 minutes)

def offset : ZoneForm → Int
  | letter _ => 0
  | shifted sign hours minutes _ => sign.factor * (hours * 3600 + minutes * 60 : Nat)

theorem offset_spec (z : ZoneForm) :
    ∃ minutes : Int, z.offset = minutes * 60 ∧ -1440 < minutes ∧ minutes < 1440 := by
  cases z with
  | letter small => exact ⟨0, rfl, by decide, by decide⟩
  | shifted sign hours minutes inDay =>
    refine ⟨sign.factor * (hours * 60 + minutes : Nat), ?_⟩
    cases sign <;> simp only [offset, OffsetSign.factor] <;> omega

end ZoneForm

/-- A date with a time of day and an offset. -/
structure DateTimeForm where
  date : Date
  separator : Char
  time : TimeForm
  zone : ZoneForm
  valid : date.isValid = true
  plain : 0 ≤ date.year ∧ date.year ≤ 9999
  separates : separator = 'T' ∨ separator = 't' ∨ separator = ' '

namespace DateTimeForm

def text (f : DateTimeForm) : List Char :=
  f.date.text ++ f.separator :: (f.time.text ++ f.zone.text)

/-- The instant of a local time is earlier by the offset. -/
def seconds (f : DateTimeForm) : Int :=
  f.date.dayNumber * 86400 + f.time.secondOfDay - f.zone.offset

theorem seconds_inCalendar (f : DateTimeForm) :
    firstSecond ≤ f.seconds ∧ f.seconds ≤ lastSecond := by
  obtain ⟨first, last⟩ := Date.dayNumber_bounds f.valid
  have start := daysBeforeYear_mono f.plain.1
  have stop := daysBeforeYear_mono (Int.add_le_add_right f.plain.2 1)
  have firstDay : daysBeforeYear 0 = -366 := rfl
  have lastDay : daysBeforeYear (9999 + 1) = 3652059 := rfl
  obtain ⟨minutes, offset, west, east⟩ := f.zone.offset_spec
  have inDay := f.time.inDay
  unfold daysBeforeEpoch at first last
  unfold seconds TimeForm.secondOfDay firstSecond lastSecond
  omega

theorem nanos_spec (f : DateTimeForm) : f.time.nanos < 1000000000 ∨
    (f.time.nanos < 2000000000 ∧ f.seconds % 60 = 59) := by
  have fraction := f.time.fraction.nanos_lt
  obtain ⟨minutes, offset, -, -⟩ := f.zone.offset_spec
  unfold TimeForm.nanos
  split
  · rename_i leap
    refine .inr ⟨by omega, ?_⟩
    unfold seconds TimeForm.secondOfDay
    omega
  · exact .inl fraction

theorem nanos_lt (f : DateTimeForm) : f.time.nanos < 2000000000 := by
  have spec := f.nanos_spec
  omega

def timestamp (f : DateTimeForm) : Timestamp :=
  ⟨⟨f.seconds, f.time.nanos, f.seconds_inCalendar, f.nanos_lt⟩, f.zone.offset⟩

end DateTimeForm

/-- A point in time as it may be written. -/
inductive Endpoint where
  | dateTime (form : DateTimeForm)
  | date (form : DateForm)

namespace Endpoint

def text : Endpoint → List Char
  | dateTime form => form.text
  | date form => form.text

def timestamp : Endpoint → Timestamp
  | dateTime form => form.timestamp
  | date form => form.timestamp

end Endpoint

end SeriesCatalog.Calendar
