import VirtualShell.Command.Basic
import VirtualShell.Time.Pattern

/-!
# The clock

`date` writes the clock reading of the line, in universal time, by a pattern that the user may
give behind a plus sign.
-/

namespace VirtualShell.Command

open Text

/-- The pattern of `date` when none is given. -/
def datePattern : String := "%a %b %e %H:%M:%S UTC %Y"

/-- What `date` breaks off with at an item that has no text. -/
def textlessItem : String := "a Display implementation returned an error unexpectedly: Error"

/-- The pattern that an argument gives: what stands behind its plus sign, without quotes around
it. -/
def patternArgument? (arg : String) : Option String :=
  stripStart? "+" (trimMatches (fun c => c = '"' || c = '\'') arg)

/-- Writes the time by a pattern. -/
def dateBy (now : Time.Instant) (pattern : String) : Verdict :=
  match Time.Pattern.parse? pattern with
  | none => .failed ("date: invalid format " ++ quoted pattern)
  | some read =>
    match read.format? now with
    | some text => .ok text
    | none => .panic textlessItem

/-- `date` writes the time. -/
def date : Command := .inspect fun call _ =>
  match call.args with
  | [] => dateBy call.now datePattern
  | arg :: _ =>
    match patternArgument? arg with
    | none => .failed ("date: invalid date " ++ quoted arg)
    | some pattern => dateBy call.now pattern

end VirtualShell.Command
