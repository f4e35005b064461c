import SeriesCatalog.Calendar.Timestamp

/-! # Half-open time intervals

An interval holds the instants from its start up to, but not including, its end. Intervals of the
catalog are canonical: both endpoints are expressed in UTC. `Interval.parse` is where texts from
outside are checked.
-/

namespace SeriesCatalog

open Calendar

/-- What is wrong with an interval literal. -/
inductive LiteralFault where
  | noSlash
  | badStart
  | badEnd
  /-- A number of milliseconds lies outside the calendar. -/
  | outOfRange (millis : Int)
  deriving DecidableEq, Repr

def LiteralFault.message : LiteralFault → String
  | .noSlash => "expected '<start>/<end>'"
  | .badStart => "invalid start timestamp"
  | .badEnd => "invalid end timestamp"
  | .outOfRange millis => s!"{millis} ms is out of range"

/-- Why there is no interval. -/
inductive IntervalError where
  | endBeforeStart (start stop : Timestamp)
  | notUtc (literal : String)
  | malformed (literal : String) (fault : LiteralFault)
  deriving DecidableEq, Repr

def IntervalError.message : IntervalError → String
  | .endBeforeStart start stop =>
    "interval end " ++ String.ofList (stop.text .digits) ++ " is before start " ++
      String.ofList (start.text .digits)
  | .notUtc literal => "interval " ++ literal ++ " is not expressed in the UTC calendar"
  | .malformed literal fault =>
    "malformed interval literal '" ++ literal ++ "': " ++ fault.message

/-- The calendar that the endpoints of an interval are expressed in. -/
inductive Chronology where
  | utc
  /-- Local time with an offset from UTC that is not zero. -/
  | shifted (offset : Int)
  deriving DecidableEq, Repr

/-- A time range that holds its start and not its end. -/
structure Interval where
  /-- The first instant. -/
  start : Timestamp
  /-- The instant after the last. -/
  stop : Timestamp
  ordered : ¬ stop.instant < start.instant
  deriving DecidableEq, Repr

namespace Interval

/-- The interval between two endpoints, which keep their offsets. -/
def new (start stop : Timestamp) : Except IntervalError Interval :=
  if ordered : stop.instant < start.instant then .error (.endBeforeStart start stop)
  else .ok ⟨start, stop, ordered⟩

/-- The calendar of the interval: the first offset that is not zero decides. -/
def chronology (i : Interval) : Chronology :=
  if i.start.offset ≠ 0 then .shifted i.start.offset
  else if i.stop.offset ≠ 0 then .shifted i.stop.offset
  else .utc

def isCanonical (i : Interval) : Bool :=
  i.chronology == .utc

/-- The interval in UTC between two numbers of milliseconds since the epoch. -/
def ofMillis (start stop : Int) : Except IntervalError Interval :=
  let literal := toString start ++ "/" ++ toString stop
  match Instant.ofMillis? start with
  | none => .error (.malformed literal (.outOfRange start))
  | some first =>
    match Instant.ofMillis? stop with
    | none => .error (.malformed literal (.outOfRange stop))
    | some last => new ⟨first, 0⟩ ⟨last, 0⟩

/-- Reads a literal `start/end`, whose endpoints are date-times or dates in UTC. -/
def parse (literal : String) : Except IntervalError Interval :=
  match Text.splitFirst? '/' (Text.trim literal.toList) with
  | none => .error (.malformed literal .noSlash)
  | some (before, after) =>
    match Timestamp.read? (Text.trim before) with
    | none => .error (.malformed literal .badStart)
    | some start =>
      match Timestamp.read? (Text.trim after) with
      | none => .error (.malformed literal .badEnd)
      | some stop =>
        match new start stop with
        | .error e => .error e
        | .ok i => if i.isCanonical then .ok i else .error (.notUtc literal)

/-- The literal of the interval, which `parse` reads. -/
def text (i : Interval) : String :=
  String.ofList (i.start.text .letter ++ '/' :: i.stop.text .letter)

def contains (i : Interval) (t : Instant) : Bool :=
  decide (i.start.instant ≤ t ∧ t < i.stop.instant)

/-- Each interval starts before the other ends. -/
def overlaps (a b : Interval) : Bool :=
  decide (a.start.instant < b.stop.instant ∧ b.start.instant < a.stop.instant)

/-- Two intervals are the same when they hold the same instants in the same calendar. -/
def same (a b : Interval) : Bool :=
  a.start.instant == b.start.instant && a.stop.instant == b.stop.instant &&
    a.chronology == b.chronology

/-- The interval of tables that declare none: 1900-01-01 to 3000-01-01. -/
def default : Interval :=
  ⟨⟨.atSecond (-2208988800) (by decide), 0⟩, ⟨.atSecond 32503680000 (by decide), 0⟩,
    by decide⟩

/-- The interval as a record with named fields. -/
def recordText (i : Interval) : String :=
  "Interval \x7b start: " ++ String.ofList (i.start.text .digits) ++ ", end: " ++
    String.ofList (i.stop.text .digits) ++ " \x7d"

end Interval

end SeriesCatalog
