import VirtualShell.Frontend.Console
import VirtualShell.Frontend.Options
import VirtualShell.Frontend.Service

/-!
# The whole program

One run of the program, as a function of its arguments, its standard input, the files it may read
and a clock that stands still.  It says what is printed and with which code the program ends: zero,
one if the last line failed or something cannot be read, two if the program was misused.
-/

namespace VirtualShell.Frontend

/-- What a run of the program finds. -/
structure Surroundings where
  /-- The standard input. -/
  input : Input
  /-- The text of a file, or why it cannot be read. -/
  fileText : String → Except ReadFault String
  now : Time.Instant
  draws : Draws

/-- How a run of the program ends. -/
structure Ending where
  code : Nat
  printed : Printed
  deriving DecidableEq, Repr

/-- What is printed when a script cannot be read. -/
def unreadable (file : String) (fault : ReadFault) : String :=
  "Error: Failed to read script: " ++ file ++ "\n\nCaused by:\n    " ++ fault.message ++ "\n"

/-- What is printed when the line of a request cannot be read. -/
def unreadRequest (fault : ReadFault) : String :=
  "Error: Failed to read line from stdin\n\nCaused by:\n    " ++ fault.message ++ "\n"

/-- What is printed when a line at a prompt cannot be read. -/
def unreadLine (fault : ReadFault) : String := "Error: " ++ fault.message ++ "\n"

/-- The ending of a program that has read its input up to the end, or up to a fault. -/
def Ending.ofInput (complaint : ReadFault → String) (printed : Printed) :
    Option ReadFault → Ending
  | none => ⟨0, printed⟩
  | some fault => ⟨1, printed ++ ⟨"", complaint fault⟩⟩

/-- Executes the lines of a text. -/
def runText (surroundings : Surroundings) (console : Console) (text : String) : Ending :=
  let (printed, success) := console.enterAll surroundings.now (Console.scriptLines text) true
  ⟨if success then 0 else 1, printed⟩

/-- Runs the program with options. -/
def runOptions (surroundings : Surroundings) (options : Options) : Ending :=
  let shell := options.shell surroundings.now
  let console := (Console.start shell surroundings.draws surroundings.now).1
  match options.task with
  | .lines text => runText surroundings console text
  | .script file =>
    match surroundings.fileText file with
    | .ok text => runText surroundings console text
    | .error fault => ⟨1, ⟨"", unreadable file fault⟩⟩
  | .serve =>
    let lines := surroundings.input.lines.map fun line => (surroundings.now, line)
    let (responses, fault) := Service.answerLines lines ⟨shell, surroundings.draws⟩
    .ofInput unreadRequest ⟨Text.unlines (responses.map Response.text), ""⟩ fault
  | .converse =>
    let (printed, fault) :=
      console.converse options.host surroundings.now surroundings.input.lines Path.home
    .ofInput unreadLine printed fault

/-- Runs the program. -/
def run (surroundings : Surroundings) (arguments : List String) : Ending :=
  match Start.ofArguments arguments with
  | .run options => runOptions surroundings options
  | .help => ⟨0, ⟨helpText, ""⟩⟩
  | .version => ⟨0, ⟨versionText, ""⟩⟩
  | .misuse => ⟨2, ⟨"", misuseText⟩⟩

end VirtualShell.Frontend
