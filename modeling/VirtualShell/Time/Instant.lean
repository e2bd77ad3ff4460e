import VirtualShell.Text.Columns
import VirtualShell.Time.Calendar

/-!
# Clock readings

A reading of the clock counts seconds and nanoseconds from the beginning of 1970 in universal time.
Commands never read a clock themselves: the reading is an argument, and stands still for as long as
one line is executed.
-/

namespace VirtualShell.Time

/-- A reading of the clock. -/
structure Instant where
  /-- Seconds since the beginning of 1970. -/
  seconds : Int
  /-- Nanoseconds within the second. -/
  nanos : Nat := 0
  deriving DecidableEq, Repr

namespace Instant

/-- The order of readings: by seconds, then by nanoseconds. -/
protected def le (a b : Instant) : Prop :=
  a.seconds < b.seconds ∨ (a.seconds = b.seconds ∧ a.nanos ≤ b.nanos)

instance : LE Instant := ⟨Instant.le⟩

instance (a b : Instant) : Decidable (a ≤ b) :=
  inferInstanceAs (Decidable (a.seconds < b.seconds ∨ (a.seconds = b.seconds ∧ a.nanos ≤ b.nanos)))

/-- The day of a reading, counted from the first of January 1970. -/
def days (t : Instant) : Int := t.seconds.fdiv 86400

/-- The date of a reading. -/
def date (t : Instant) : Date := Date.ofDays t.days

/-- The second of the day. -/
def secondOfDay (t : Instant) : Nat := (t.seconds.fmod 86400).toNat

/-- The hour, from 0 to 23. -/
def hour (t : Instant) : Nat := t.secondOfDay / 3600

/-- The hour of the half day, from 1 to 12. -/
def hour12 (t : Instant) : Nat := if t.hour % 12 = 0 then 12 else t.hour % 12

/-- The minute of the hour. -/
def minute (t : Instant) : Nat := t.secondOfDay % 3600 / 60

/-- The second of the minute. -/
def second (t : Instant) : Nat := t.secondOfDay % 60

/-- The fraction of the second with its point: none, or the fewest of three, six and nine digits
that show it exactly. -/
def fraction (t : Instant) : String :=
  if t.nanos = 0 then ""
  else if t.nanos % 1000000 = 0 then "." ++ Text.zeroPadded 3 (t.nanos / 1000000)
  else if t.nanos % 1000 = 0 then "." ++ Text.zeroPadded 6 (t.nanos / 1000)
  else "." ++ Text.zeroPadded 9 t.nanos

/-- A year with a sign, padded to four digits. -/
def signedYear (year : Int) : String :=
  (if year < 0 then "-" else "+") ++ Text.zeroPadded 4 year.natAbs

/-- A year of an internet timestamp: four digits, and a sign where four digits do not hold it. -/
def yearText (year : Int) : String :=
  if 0 ≤ year && year ≤ 9999 then Text.zeroPadded 4 year.toNat else signedYear year

/-- The internet timestamp of a reading, with the given text for its zone. -/
def timestamp (zone : String) (t : Instant) : String :=
  let two := Text.zeroPadded 2
  yearText t.date.year ++ "-" ++ two t.date.month ++ "-" ++ two t.date.day ++ "T" ++ two t.hour
    ++ ":" ++ two t.minute ++ ":" ++ two t.second ++ t.fraction ++ zone

end Instant

end VirtualShell.Time
