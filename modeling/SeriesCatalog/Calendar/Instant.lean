import SeriesCatalog.Calendar.Date

/-! # Instants

Points in time with nanoseconds. A leap second continues the count of the nanoseconds of the
second before it, so that `23:59:60.5` is second 59 with 1500000000 nanoseconds. Any second may be
followed by one, though clocks announce them for the end of a minute only.
-/

namespace SeriesCatalog.Calendar

/-- The first second that an instant may lie in: the start of year -262143. -/
def firstSecond : Int := -8334601228800

/-- The last second that an instant may lie in: the end of year 262142. -/
def lastSecond : Int := 8210266876799

structure Instant where
  /-- Whole seconds since 1970-01-01T00:00:00Z, leap seconds not counted. -/
  seconds : Int
  /-- Nanoseconds within the second; a thousand million and more within a leap second. -/
  nanos : Nat
  inCalendar : firstSecond ≤ seconds ∧ seconds ≤ lastSecond
  nanos_lt : nanos < 2000000000
  deriving DecidableEq, Repr

namespace Instant

def atSecond (seconds : Int) (inCalendar : firstSecond ≤ seconds ∧ seconds ≤ lastSecond) :
    Instant :=
  ⟨seconds, 0, inCalendar, by decide⟩

/-- The instant with the given seconds and nanoseconds, if there is one. Leap seconds are made at
the end of a minute and nowhere else. -/
def of? (seconds : Int) (nanos : Nat) : Option Instant :=
  if inCalendar : firstSecond ≤ seconds ∧ seconds ≤ lastSecond then
    if nanos_lt : nanos < 1000000000 ∨ (nanos < 2000000000 ∧ seconds % 60 = 59) then
      some ⟨seconds, nanos, inCalendar, by omega⟩
    else none
  else none

/-- The instant that lies a number of milliseconds after the epoch, if there is one. -/
def ofMillis? (millis : Int) : Option Instant :=
  of? (millis / 1000) ((millis % 1000).toNat * 1000000)

/-- Whole milliseconds since the epoch, rounded down. -/
def millis (t : Instant) : Int :=
  t.seconds * 1000 + (t.nanos / 1000000 : Nat)

def isLeap (t : Instant) : Bool :=
  1000000000 ≤ t.nanos

/-- Earlier second first, then fewer nanoseconds. -/
protected def lt (a b : Instant) : Prop :=
  a.seconds < b.seconds ∨ (a.seconds = b.seconds ∧ a.nanos < b.nanos)

protected def le (a b : Instant) : Prop :=
  a.seconds < b.seconds ∨ (a.seconds = b.seconds ∧ a.nanos ≤ b.nanos)

instance : LT Instant := ⟨Instant.lt⟩

instance : LE Instant := ⟨Instant.le⟩

instance (a b : Instant) : Decidable (a < b) :=
  inferInstanceAs (Decidable (a.seconds < b.seconds ∨ (a.seconds = b.seconds ∧ a.nanos < b.nanos)))

instance (a b : Instant) : Decidable (a ≤ b) :=
  inferInstanceAs (Decidable (a.seconds < b.seconds ∨ (a.seconds = b.seconds ∧ a.nanos ≤ b.nanos)))

end Instant

end SeriesCatalog.Calendar
