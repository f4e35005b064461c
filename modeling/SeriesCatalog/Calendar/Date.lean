import SeriesCatalog.Text.Digits
import SeriesCatalog.Text.Blank

/-! # Days of the proleptic Gregorian calendar

Days are counted from 1970-01-01. A day has a number and a civil form of year, month and day of the
month; `Date.dayNumber` and `Date.ofDayNumber` lead from one to the other.
-/

namespace SeriesCatalog.Calendar

/-- Every fourth year is a leap year, every hundredth is not, every four hundredth is. -/
def isLeapYear (year : Int) : Bool :=
  year % 4 == 0 && (year % 100 != 0 || year % 400 == 0)

/-- Days from the first day of year 1 to the first day of a year. -/
def daysBeforeYear (year : Int) : Int :=
  365 * (year - 1) + (year - 1) / 4 - (year - 1) / 100 + (year - 1) / 400

/-- Days from the first day of year 1 to 1970-01-01. -/
def daysBeforeEpoch : Int := 719162

def monthLengths (leap : Bool) : List Nat :=
  [31, if leap then 29 else 28, 31, 30, 31, 30, 31, 31, 30, 31, 30, 31]

/-- The length of a month, zero for a number that is no month. -/
def monthLength (leap : Bool) (month : Nat) : Nat :=
  if month = 0 then 0 else (monthLengths leap).getD (month - 1) 0

/-- The days of months of the given lengths together. -/
def totalDays : (lengths : List Nat) → Nat
  | [] => 0
  | length :: rest => length + totalDays rest

def daysBeforeMonth (leap : Bool) (month : Nat) : Nat :=
  totalDays ((monthLengths leap).take (month - 1))

/-- The month, counted from `month`, that holds a day, and the day's place in it from 1. -/
def walkMonths : (lengths : List Nat) → (month day : Nat) → Nat × Nat
  | [], month, day => (month, day + 1)
  | length :: rest, month, day =>
    if day < length then (month, day + 1) else walkMonths rest (month + 1) (day - length)

/-- The year of the day that lies `days` after the first day of year 1. -/
def yearOfDays (days : Int) : Int :=
  let guess := 400 * days / 146097 + 1
  if days < daysBeforeYear guess then guess - 1
  else if daysBeforeYear (guess + 1) ≤ days then guess + 1
  else guess

structure Date where
  year : Int
  month : Nat
  day : Nat
  deriving Repr, DecidableEq

namespace Date

def isValid (d : Date) : Bool :=
  1 ≤ d.month && d.month ≤ 12 && 1 ≤ d.day && d.day ≤ monthLength (isLeapYear d.year) d.month

/-- The number of a date, counted from 1970-01-01. -/
def dayNumber (d : Date) : Int :=
  daysBeforeYear d.year + daysBeforeMonth (isLeapYear d.year) d.month + (d.day - 1 : Int)
    - daysBeforeEpoch

def ofDayNumber (number : Int) : Date :=
  let days := number + daysBeforeEpoch
  let year := yearOfDays days
  let (month, day) :=
    walkMonths (monthLengths (isLeapYear year)) 1 (days - daysBeforeYear year).toNat
  ⟨year, month, day⟩

def firstYear : Int := -262143

def lastYear : Int := 262142

/-- Years 0 to 9999 have four digits, others a sign and at least four digits. -/
def yearText (year : Int) : List Char :=
  if 0 ≤ year ∧ year ≤ 9999 then Text.fixedNumeral 4 year.toNat
  else (if year < 0 then '-' else '+') :: Text.paddedNumeral 4 year.natAbs

def text (d : Date) : List Char :=
  yearText d.year ++ '-' :: Text.fixedNumeral 2 d.month ++ '-' :: Text.fixedNumeral 2 d.day

/-- A year without a sign has one to four digits, with a sign any number of them. -/
def readYear? : List Char → Option (Int × List Char)
  | '-' :: rest =>
    match Text.spanDigits rest with
    | ([], _) => none
    | (digits, rest) => some (-Text.digitsValue digits, rest)
  | '+' :: rest =>
    match Text.spanDigits rest with
    | ([], _) => none
    | (digits, rest) => some (Text.digitsValue digits, rest)
  | text =>
    match Text.spanDigits (text.take 4) with
    | ([], _) => none
    | (digits, _) => some (Text.digitsValue digits, text.drop digits.length)

/-- A month or a day of the month has one or two digits. -/
def readShort? (text : List Char) : Option (Nat × List Char) :=
  match Text.spanDigits (text.take 2) with
  | ([], _) => none
  | (digits, _) => some (Text.digitsValue digits, text.drop digits.length)

/-- Reads `year-month-day`; numbers need no padding, and blanks may stand before each of them. -/
def read? (text : List Char) : Option Date := do
  let (year, rest) ← readYear? (Text.trimStart text)
  let rest ← Text.oneChar? '-' rest
  let (month, rest) ← readShort? (Text.trimStart rest)
  let rest ← Text.oneChar? '-' rest
  let (day, rest) ← readShort? (Text.trimStart rest)
  let date : Date := ⟨year, month, day⟩
  if rest = [] ∧ date.isValid ∧ firstYear ≤ year ∧ year ≤ lastYear then some date else none

end Date

end SeriesCatalog.Calendar
