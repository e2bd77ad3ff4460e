import VirtualShell.Frontend.Input
import VirtualShell.Shell.Basic
import VirtualShell.Text.Blank

/-!
# The console

A console is one session of a shell with a user in front of it.  It prints what each line answers:
the output, and apart from it the error, unless the output says the same already.

Lines come from a text, whose blank lines and comments are passed over, or from a prompt, which
shows the user, the host and the working directory until it is left.
-/

namespace VirtualShell.Frontend

open Text

/-- What is printed: on the standard output, and on the standard error. -/
structure Printed where
  out : String := ""
  err : String := ""
  deriving DecidableEq, Repr

instance : Append Printed := ⟨fun a b => ⟨a.out ++ b.out, a.err ++ b.err⟩⟩

/-- A report as a terminal shows it. -/
def printReport (report : Report) : Printed :=
  if report.output = clearScreen then ⟨clearScreen, ""⟩
  else
    { out := if report.output = "" then "" else report.output ++ "\n"
      err :=
        match report.error with
        | some error =>
          if report.output = "" || !contains report.output error then error ++ "\n" else ""
        | none => "" }

/-- A session of a shell with a user in front of it. -/
structure Console where
  shell : Shell
  session : Nat
  draws : Draws

/-- What entering a line leads to. -/
structure Entered where
  report : Report
  console : Console
  events : List Log.Event

namespace Console

/-- Begins a session of a shell. -/
def start (shell : Shell) (draws : Draws) (now : Time.Instant) : Console × List Log.Event :=
  let (session, shell, events) := shell.create now
  (⟨shell, session, draws⟩, events)

/-- Enters a line. -/
def enter (console : Console) (line : String) (now : Time.Instant) : Entered :=
  match console.shell.execute console.session line now console.draws with
  | .ok done =>
    ⟨done.report, { console with shell := done.shell, draws := done.draws }, done.events⟩
  | .error failure => ⟨⟨.failed failure.message, Path.home⟩, console, []⟩

/-! ## Scripts -/

/-- The lines of a text that are executed: neither blank nor comments. -/
def scriptLines (text : String) : List String :=
  ((linesOf text).map trim).filter fun line => line ≠ "" && !startsWith "#" line

/-- Enters lines one after the other: all that is printed, and whether the last of them succeeded,
or `success` if there is none. -/
def enterAll (now : Time.Instant) : List String → Bool → Console → Printed × Bool
  | [], success, _ => ({}, success)
  | line :: rest, _, console =>
    let entered := console.enter line now
    let (printed, success) := enterAll now rest entered.report.success entered.console
    (printReport entered.report ++ printed, success)

/-! ## Prompts -/

/-- A working directory as a prompt shows it: the home directory is a tilde. -/
def promptDirectory (cwd : String) : String :=
  match stripStart? Path.home cwd with
  | none => cwd
  | some rest => if rest = "" || startsWith "/" rest then "~" ++ rest else cwd

/-- The prompt for a working directory. -/
def prompt (hostname cwd : String) : String :=
  "user@" ++ hostname ++ ":" ++ promptDirectory cwd ++ "$ "

/-- Whether a line leaves the prompt. -/
def isExit (line : String) : Bool := trim line = "exit" || trim line = "logout"

/-- Converses at a prompt until a line leaves it, there are no more lines, or one cannot be read. -/
def converse (hostname : String) (now : Time.Instant) :
    List (Except ReadFault String) → String → Console → Printed × Option ReadFault
  | [], cwd, _ => (⟨prompt hostname cwd, ""⟩, none)
  | .error fault :: _, cwd, _ => (⟨prompt hostname cwd, ""⟩, some fault)
  | .ok line :: rest, cwd, console =>
    let shown : Printed := ⟨prompt hostname cwd, ""⟩
    if isExit line then (shown, none)
    else
      let entered := console.enter line now
      let (printed, fault) :=
        converse hostname now rest entered.report.currentDirectory entered.console
      (shown ++ printReport entered.report ++ printed, fault)

end Console

end VirtualShell.Frontend
