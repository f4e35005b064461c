import SeriesCatalog.Calendar.Instant

/-! # Instants with a UTC offset and their text

A timestamp is an instant together with the offset of the local time it is written in. Its text is
that of RFC 3339; a bare date is read as its midnight in UTC.
-/

namespace SeriesCatalog.Calendar

/-- An instant as seen on a clock with an offset from UTC. -/
structure Timestamp where
  instant : Instant
  /-- Seconds that local time is ahead of UTC. -/
  offset : Int
  deriving DecidableEq, Repr

namespace Timestamp

def isOffset (offset : Int) : Bool :=
  -86400 < offset && offset < 86400

/-- How an offset of zero is written. -/
inductive ZeroOffset where
  | letter
  | digits
  deriving DecidableEq, Repr

/-- The fraction of a second in 0, 3, 6 or 9 digits, the fewest that are exact. -/
def fractionText (nanos : Nat) : List Char :=
  if nanos = 0 then []
  else if nanos % 1000000 = 0 then '.' :: Text.fixedNumeral 3 (nanos / 1000000)
  else if nanos % 1000 = 0 then '.' :: Text.fixedNumeral 6 (nanos / 1000)
  else '.' :: Text.fixedNumeral 9 nanos

/-- Hours and minutes of an offset, rounded to the nearest minute, half a minute away from zero. -/
def offsetText (zero : ZeroOffset) (offset : Int) : List Char :=
  if offset = 0 ∧ zero = .letter then ['Z']
  else
    let minutes := (offset.natAbs + 30) / 60
    (if offset < 0 then '-' else '+') :: Text.fixedNumeral 2 (minutes / 60) ++
      ':' :: Text.fixedNumeral 2 (minutes % 60)

/-- The local time `hour:minute:second` with its fraction. A leap second has the number after that of
its second, which is 60 at the end of a minute. -/
def clockText (secondOfDay nanos : Nat) : List Char :=
  let leap := 1000000000 ≤ nanos
  Text.fixedNumeral 2 (secondOfDay / 3600) ++
    ':' :: Text.fixedNumeral 2 (secondOfDay / 60 % 60) ++
    ':' :: Text.fixedNumeral 2 (secondOfDay % 60 + if leap then 1 else 0) ++
    fractionText (if leap then nanos - 1000000000 else nanos)

def text (zero : ZeroOffset) (t : Timestamp) : List Char :=
  let seconds := t.instant.seconds + t.offset
  (Date.ofDayNumber (seconds / 86400)).text ++
    'T' :: clockText (seconds % 86400).toNat t.instant.nanos ++ offsetText zero t.offset

/-- The nanoseconds that the digits of a fraction denote; digits after the ninth do not count. -/
def fractionNanos (digits : List Char) : Nat :=
  Text.digitsValue ((digits ++ List.replicate 9 '0').take 9)

/-- An optional fraction: a point and at least one digit. -/
def readFraction? : List Char → Option (Nat × List Char)
  | '.' :: rest =>
    match Text.spanDigits rest with
    | ([], _) => none
    | (digits, rest) => some (fractionNanos digits, rest)
  | rest => some (0, rest)

/-- An offset up to the end of the text: `Z`, or a sign, hours and minutes. -/
def readOffset? : List Char → Option Int
  | ['Z'] | ['z'] => some 0
  | sign :: rest => do
    let factor : Int ←
      if sign = '+' then some 1
      else if sign = '-' ∨ sign = '\u2212' then some (-1)
      else none
    let (hours, rest) ← Text.twoDigits? rest
    let rest ← Text.oneChar? ':' rest
    let (minutes, rest) ← Text.twoDigits? rest
    if rest = [] ∧ hours ≤ 23 ∧ minutes ≤ 59 then
      some (factor * (hours * 3600 + minutes * 60 : Nat))
    else none
  | [] => none

def readFullDate? (text : List Char) : Option (Date × List Char) := do
  let (year, rest) ← Text.fourDigits? text
  let rest ← Text.oneChar? '-' rest
  let (month, rest) ← Text.twoDigits? rest
  let rest ← Text.oneChar? '-' rest
  let (day, rest) ← Text.twoDigits? rest
  let date : Date := ⟨year, month, day⟩
  if date.isValid then some (date, rest) else none

/-- A time of day, as its second and nanoseconds; second 60 is the leap second after 59. -/
def readClock? (text : List Char) : Option (Nat × Nat × List Char) := do
  let (hour, rest) ← Text.twoDigits? text
  let rest ← Text.oneChar? ':' rest
  let (minute, rest) ← Text.twoDigits? rest
  let rest ← Text.oneChar? ':' rest
  let (second, rest) ← Text.twoDigits? rest
  let (nanos, rest) ← readFraction? rest
  if hour ≤ 23 ∧ minute ≤ 59 ∧ second ≤ 60 then
    if second = 60 then some (hour * 3600 + minute * 60 + 59, nanos + 1000000000, rest)
    else some (hour * 3600 + minute * 60 + second, nanos, rest)
  else none

/-- The letter between date and time, or a blank in its place. -/
def readSeparator? : List Char → Option (List Char)
  | c :: rest => if c = 'T' ∨ c = 't' ∨ c = ' ' then some rest else none
  | [] => none

/-- Reads a date, a time of day and an offset in the form of RFC 3339. -/
def readDateTime? (text : List Char) : Option Timestamp := do
  let (date, rest) ← readFullDate? text
  let rest ← readSeparator? rest
  let (secondOfDay, nanos, rest) ← readClock? rest
  let offset ← readOffset? rest
  let instant ← Instant.of? (date.dayNumber * 86400 + secondOfDay - offset) nanos
  some ⟨instant, offset⟩

def midnight? (date : Date) : Option Timestamp :=
  (Instant.of? (date.dayNumber * 86400) 0).map (⟨·, 0⟩)

/-- Reads a date and time, or else a bare date as its midnight in UTC. -/
def read? (text : List Char) : Option Timestamp :=
  match readDateTime? text with
  | some t => some t
  | none => (Date.read? text).bind midnight?

end Timestamp

end SeriesCatalog.Calendar
