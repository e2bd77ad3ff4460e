import VirtualShell.Text.Pieces
import VirtualShell.Time.Instant

/-!
# Patterns for clock readings

A pattern is a text in which a percent sign begins a directive: `%Y` stands for the year, `%T` for
hours, minutes and seconds, `%.3f` for milliseconds behind a point.  Everything else stands for
itself.

**Reading.**  A pattern is read into items before any clock is looked at.  The directives are a
table of spellings, none of which begins another, so at most one fits.  Between the percent sign
and the letter one of `-`, `0`, `_` may ask for no padding, zeros or spaces, but only where the
directive is a single figure.  `Pattern.parse?` refuses a pattern with anything else behind a
percent sign.

**Writing.**  `Pattern.format?` writes each item.  One directive, `%#z`, is accepted when a pattern
is read and has no text; a pattern with it cannot be written.
-/

namespace VirtualShell.Time

/-! ## Items -/

/-- How a figure fills its width. -/
inductive Padding where
  | none
  | zero
  | space
  deriving DecidableEq, Repr

/-- A number that a pattern can show. -/
inductive Figure where
  | year
  | century
  | yearOfCentury
  | isoYear
  | isoYearOfCentury
  | isoWeek
  | quarter
  | month
  | day
  /-- The day of the year. -/
  | ordinal
  /-- The week of the year, beginning with Sunday. -/
  | weekFromSunday
  /-- The week of the year, beginning with Monday. -/
  | weekFromMonday
  /-- From 0 for Sunday. -/
  | daysFromSunday
  /-- From 1 for Monday. -/
  | weekday
  | hour
  | hour12
  | minute
  | second
  | nanosecond
  /-- Seconds since the beginning of 1970. -/
  | timestamp
  deriving DecidableEq, Repr

/-- A piece of a pattern. -/
inductive Item where
  | literal (text : String)
  | figure (figure : Figure) (padding : Padding)
  | monthName
  | shortMonthName
  | weekdayName
  | shortWeekdayName
  | lowerHalfDay
  | upperHalfDay
  /-- The fraction of the second with its point, as short as is exact. -/
  | fraction
  /-- A number of digits of the fraction of the second: three, six or nine. -/
  | fractionDigits (point : String) (digits : Nat)
  /-- The internet timestamp. -/
  | internet
  /-- Accepted in a pattern, but has no text. -/
  | textless
  deriving DecidableEq, Repr

/-! ## Writing -/

/-- Digits behind a sign, filled up to a width that counts the sign. -/
def signedDigits (padding : Padding) (width : Nat) (sign : String) (n : Nat) : String :=
  match padding with
  | .none => sign ++ toString n
  | .zero => sign ++ Text.padLeftWith '0' (width - sign.length) (toString n)
  | .space => Text.padLeft width (sign ++ toString n)

/-- A whole number, with a sign if it is negative. -/
def wholeNumber (padding : Padding) (width : Nat) (n : Int) : String :=
  signedDigits padding width (if n < 0 then "-" else "") n.natAbs

/-- A year: four digits, or a sign and at least four digits where four do not hold it. -/
def paddedYear (padding : Padding) (year : Int) : String :=
  if 0 ≤ year && year ≤ 9999 then signedDigits padding 4 "" year.toNat
  else signedDigits padding 5 (if year < 0 then "-" else "+") year.natAbs

/-- A number of two places.  The tens are one character whatever their number, counted on from the
digit zero. -/
def twoPlaces (padding : Padding) (n : Nat) : String :=
  let ones := toString (n % 10)
  match n / 10, padding with
  | 0, .none => ones
  | 0, .space => " " ++ ones
  | tens, _ => String.singleton (Char.ofNat ('0'.toNat + tens)) ++ ones

/-- A figure of a clock reading. -/
def Figure.text (t : Instant) (padding : Padding) : Figure → String
  | year => paddedYear padding t.date.year
  | century => twoPlaces padding ((t.date.year.fdiv 100).fmod 256).toNat
  | yearOfCentury => twoPlaces padding (t.date.year.fmod 100).toNat
  | isoYear => paddedYear padding (IsoWeek.ofDays t.days).year
  | isoYearOfCentury => twoPlaces padding ((IsoWeek.ofDays t.days).year.fmod 100).toNat
  | isoWeek => twoPlaces padding (IsoWeek.ofDays t.days).week
  | quarter => toString ((t.date.month + 2) / 3)
  | month => twoPlaces padding t.date.month
  | day => twoPlaces padding t.date.day
  | ordinal => wholeNumber padding 3 t.date.ordinal
  | weekFromSunday => twoPlaces padding (t.date.week 6)
  | weekFromMonday => twoPlaces padding (t.date.week 0)
  | daysFromSunday => toString ((t.date.weekday + 1) % 7)
  | weekday => toString (t.date.weekday + 1)
  | hour => twoPlaces padding t.hour
  | hour12 => twoPlaces padding t.hour12
  | minute => twoPlaces padding t.minute
  | second => twoPlaces padding t.second
  | nanosecond => wholeNumber padding 9 t.nanos
  | timestamp => wholeNumber padding 9 t.seconds

/-- An item of a clock reading, if it has a text. -/
def Item.text? (t : Instant) : Item → Option String
  | literal text => some text
  | .figure shown padding => some (shown.text t padding)
  | monthName => some t.date.monthName
  | shortMonthName => some (shortName t.date.monthName)
  | weekdayName => some t.date.weekdayName
  | shortWeekdayName => some (shortName t.date.weekdayName)
  | lowerHalfDay => some (if t.hour < 12 then "am" else "pm")
  | upperHalfDay => some (if t.hour < 12 then "AM" else "PM")
  | fraction => some t.fraction
  | fractionDigits point digits =>
    some (point ++ Text.zeroPadded digits (t.nanos / Nat.pow 10 (9 - digits)))
  | internet => some (t.timestamp "+00:00")
  | textless => none

/-! ## The table of directives -/

/-- A figure with zeros in front. -/
def Figure.zeros (figure : Figure) : Item := .figure figure .zero

/-- A figure with spaces in front. -/
def Figure.spaces (figure : Figure) : Item := .figure figure .space

/-- A figure without padding. -/
def Figure.bare (figure : Figure) : Item := .figure figure .none

/-- Month, day and the year within its century between slashes. -/
def shortDate : List Item :=
  [Figure.month.zeros, .literal "/", Figure.day.zeros, .literal "/", Figure.yearOfCentury.zeros]

/-- Hours, minutes and seconds between colons. -/
def clockTime : List Item :=
  [Figure.hour.zeros, .literal ":", Figure.minute.zeros, .literal ":", Figure.second.zeros]

/-- What may stand behind a percent sign, and the items it stands for. -/
def directives : List (String × List Item) :=
  [("A", [.weekdayName]),
   ("B", [.monthName]),
   ("C", [Figure.century.zeros]),
   ("D", shortDate),
   ("F", [Figure.year.zeros, .literal "-", Figure.month.zeros, .literal "-", Figure.day.zeros]),
   ("G", [Figure.isoYear.zeros]),
   ("H", [Figure.hour.zeros]),
   ("I", [Figure.hour12.zeros]),
   ("M", [Figure.minute.zeros]),
   ("P", [.lowerHalfDay]),
   ("R", [Figure.hour.zeros, .literal ":", Figure.minute.zeros]),
   ("S", [Figure.second.zeros]),
   ("T", clockTime),
   ("U", [Figure.weekFromSunday.zeros]),
   ("V", [Figure.isoWeek.zeros]),
   ("W", [Figure.weekFromMonday.zeros]),
   ("X", clockTime),
   ("Y", [Figure.year.zeros]),
   ("Z", [.literal "UTC"]),
   ("a", [.shortWeekdayName]),
   ("b", [.shortMonthName]),
   ("c", [.shortWeekdayName, .literal " ", .shortMonthName, .literal " ", Figure.day.spaces,
      .literal " "] ++ clockTime ++ [.literal " ", Figure.year.zeros]),
   ("d", [Figure.day.zeros]),
   ("e", [Figure.day.spaces]),
   ("f", [Figure.nanosecond.zeros]),
   ("g", [Figure.isoYearOfCentury.zeros]),
   ("h", [.shortMonthName]),
   ("j", [Figure.ordinal.zeros]),
   ("k", [Figure.hour.spaces]),
   ("l", [Figure.hour12.spaces]),
   ("m", [Figure.month.zeros]),
   ("n", [.literal "\n"]),
   ("p", [.upperHalfDay]),
   ("q", [Figure.quarter.bare]),
   ("r", [Figure.hour12.zeros, .literal ":", Figure.minute.zeros, .literal ":",
      Figure.second.zeros, .literal " ", .upperHalfDay]),
   ("s", [Figure.timestamp.bare]),
   ("t", [.literal "\t"]),
   ("u", [Figure.weekday.bare]),
   ("v", [Figure.day.spaces, .literal "-", .shortMonthName, .literal "-", Figure.year.zeros]),
   ("w", [Figure.daysFromSunday.bare]),
   ("x", shortDate),
   ("y", [Figure.yearOfCentury.zeros]),
   ("z", [.literal "+0000"]),
   (":z", [.literal "+00:00"]),
   ("::z", [.literal "+00:00:00"]),
   (":::z", [.literal "+00"]),
   ("#z", [.textless]),
   ("+", [.internet]),
   (".f", [.fraction]),
   (".3f", [.fractionDigits "." 3]),
   (".6f", [.fractionDigits "." 6]),
   (".9f", [.fractionDigits "." 9]),
   ("3f", [.fractionDigits "" 3]),
   ("6f", [.fractionDigits "" 6]),
   ("9f", [.fractionDigits "" 9]),
   ("%", [.literal "%"])]

/-! ## Reading -/

/-- The directive that a text begins with: its items and the number of its characters. -/
def directive? (text : List Char) : Option (List Item × Nat) :=
  (directives.find? fun entry => (Text.after? entry.1.toList text).isSome).map fun entry =>
    (entry.2, entry.1.length)

/-- The padding that a character asks for. -/
def padding? : Char → Option Padding
  | '-' => some .none
  | '0' => some .zero
  | '_' => some .space
  | _ => none

/-- What a percent sign before a text stands for, and the number of characters that belong to it:
a directive, or a padding and a directive that is a single figure. -/
def paddedDirective? : List Char → Option (List Item × Nat)
  | [] => none
  | c :: rest =>
    match padding? c with
    | none => directive? (c :: rest)
    | some padding =>
      match directive? rest with
      | some ([.figure figure _], used) => some ([.figure figure padding], used + 1)
      | _ => none

/-- A pattern for clock readings. -/
structure Pattern where
  items : List Item
  deriving DecidableEq, Repr

namespace Pattern

/-- Reads the items of a text; `skip` characters belong to a directive that has been read. -/
def readItems : Nat → List Char → Option (List Item)
  | _, [] => some []
  | skip + 1, _ :: cs => readItems skip cs
  | 0, c :: cs =>
    if c = '%' then
      match paddedDirective? cs with
      | some (items, used) => (readItems used cs).map (items ++ ·)
      | none => none
    else (readItems 0 cs).map (.literal (String.singleton c) :: ·)

/-- Reads a pattern, if every percent sign in it begins a directive. -/
def parse? (text : String) : Option Pattern := (readItems 0 text.toList).map .mk

/-- Writes a clock reading by a pattern, if every item of it has a text. -/
def format? (pattern : Pattern) (t : Instant) : Option String :=
  (pattern.items.mapM (Item.text? t)).map String.join

end Pattern

end VirtualShell.Time
