/-!
# The calendar

Days are counted from the first of January 1970, and a date of the proleptic Gregorian calendar is
read off the count.  The year is taken to begin in March, so that the leap day is its last day and
the lengths of its months follow one linear rule; four hundred such years have 146097 days.

* `Date.ofDays` — the date of a day.
* `Date.week` — the number of a week within its year, counted from a given weekday.
* `IsoWeek.ofDays` — the week in the international reckoning, which belongs to the year that holds
  its Thursday.
-/

namespace VirtualShell.Time

/-- A date of the Gregorian calendar, with its place in the week and in the year. -/
structure Date where
  year : Int
  /-- From 1 for January. -/
  month : Nat
  /-- From 1. -/
  day : Nat
  /-- The day of the year, from 1. -/
  ordinal : Nat
  /-- The day of the week, from 0 for Monday. -/
  weekday : Nat
  deriving DecidableEq, Repr

/-- Whether a year has a leap day. -/
def isLeapYear (year : Int) : Bool :=
  year.fmod 4 = 0 && (year.fmod 100 ≠ 0 || year.fmod 400 = 0)

/-- The number of days of a year before each month, without a leap day. -/
def daysBeforeMonth : List Nat := [0, 31, 59, 90, 120, 151, 181, 212, 243, 273, 304, 334]

/-- The day of the year of a date. -/
def ordinalOf (year : Int) (month day : Nat) : Nat :=
  daysBeforeMonth.getD (month - 1) 0 + day + if isLeapYear year && 2 < month then 1 else 0

/-- The date of a day, counted from the first of January 1970. -/
def Date.ofDays (days : Int) : Date :=
  let shifted := days + 719468
  let era := shifted.fdiv 146097
  let dayOfEra := (shifted.fmod 146097).toNat
  let yearOfEra := (dayOfEra - dayOfEra / 1460 + dayOfEra / 36524 - dayOfEra / 146096) / 365
  let dayOfYear := dayOfEra - (365 * yearOfEra + yearOfEra / 4 - yearOfEra / 100)
  let fromMarch := (5 * dayOfYear + 2) / 153
  let day := dayOfYear - (153 * fromMarch + 2) / 5 + 1
  let month := if fromMarch < 10 then fromMarch + 3 else fromMarch - 9
  let year := era * 400 + yearOfEra + if month ≤ 2 then 1 else 0
  { year, month, day
    ordinal := ordinalOf year month day
    weekday := ((days + 3).fmod 7).toNat }

/-- The number of the week of a date, when weeks begin `shift` days after Monday: week 0 holds the
days before the first such weekday of the year. -/
def Date.week (date : Date) (shift : Nat) : Nat :=
  (date.ordinal + 6 - (date.weekday + 7 - shift) % 7) / 7

/-- A week of the international reckoning. -/
structure IsoWeek where
  year : Int
  /-- From 1. -/
  week : Nat

/-- The week of a day: its year is that of its Thursday. -/
def IsoWeek.ofDays (days : Int) : IsoWeek :=
  let thursday := Date.ofDays (days - (days + 3).fmod 7 + 3)
  ⟨thursday.year, (thursday.ordinal - 1) / 7 + 1⟩

/-- The months by name. -/
def monthNames : List String :=
  ["January", "February", "March", "April", "May", "June", "July", "August", "September",
   "October", "November", "December"]

/-- The days of the week by name, from Monday. -/
def weekdayNames : List String :=
  ["Monday", "Tuesday", "Wednesday", "Thursday", "Friday", "Saturday", "Sunday"]

/-- A name cut to its first three letters. -/
def shortName (name : String) : String := String.ofList (name.toList.take 3)

/-- The name of a date's month. -/
def Date.monthName (date : Date) : String := monthNames.getD (date.month - 1) ""

/-- The name of a date's weekday. -/
def Date.weekdayName (date : Date) : String := weekdayNames.getD date.weekday ""

end VirtualShell.Time
