import VirtualShell.Shell.Basic
import VirtualShell.Shell.Builtins
import VirtualShell.Text.Pieces

/-!
# The command line of the program

The arguments say what the program does: execute lines, execute a script, answer requests, or
converse at a prompt.  Options come before or after the script; behind `--` there are none.  An
option that is unknown, given twice, or without its value is a misuse, and so are two ways to work
at once.
-/

namespace VirtualShell.Frontend

open Text

/-- What the arguments have said so far. -/
structure Options where
  /-- Lines to execute. -/
  lines : Option String := none
  /-- The file of a script. -/
  script : Option String := none
  /-- Whether requests are answered. -/
  serves : Bool := false
  isolated : Bool := false
  hostname : Option String := none
  verbosity : Nat := 0
  deriving DecidableEq, Repr

/-- What the program is started for. -/
inductive Start where
  | run (options : Options)
  | help
  | version
  | misuse
  deriving DecidableEq, Repr

/-- A way to work. -/
inductive Task where
  | lines (text : String)
  | script (file : String)
  | serve
  | converse
  deriving DecidableEq, Repr

namespace Options

/-- The way to work that options choose: lines go before a script. -/
def task (options : Options) : Task :=
  match options.lines, options.script with
  | some text, _ => .lines text
  | none, some file => .script file
  | none, none => if options.serves then .serve else .converse

/-- The start with all arguments read: requests are answered alone. -/
def finish (options : Options) : Start :=
  if options.serves && (options.lines.isSome || options.script.isSome) then .misuse
  else .run options

/-- Sets the lines to execute, once. -/
def setLines? (options : Options) (text : String) : Option Options :=
  if options.lines.isSome then none else some { options with lines := some text }

/-- Sets the script, once; its name is not empty. -/
def setScript? (options : Options) (file : String) : Option Options :=
  if options.script.isSome || file = "" then none else some { options with script := some file }

/-- Sets the host name, once. -/
def setHostname? (options : Options) (name : String) : Option Options :=
  if options.hostname.isSome then none else some { options with hostname := some name }

/-- Sets that requests are answered, once. -/
def setServes? (options : Options) : Option Options :=
  if options.serves then none else some { options with serves := true }

/-- Sets that each session has a namespace of its own, once. -/
def setIsolated? (options : Options) : Option Options :=
  if options.isolated then none else some { options with isolated := true }

/-- Asks for more of the log. -/
def moreVerbose (options : Options) : Options :=
  { options with verbosity := options.verbosity + 1 }

end Options

/-- What reading one argument leads to. -/
inductive Step where
  | next (options : Options)
  /-- The value of the option is the next argument. -/
  | needsValue (set : String → Option Options)
  | stop (start : Start)

namespace Step

/-- The step of an option that may be given once. -/
def ofSet : Option Options → Step
  | some options => next options
  | none => stop .misuse

end Step

/-- Reads a group of single-letter options.  Lines follow their letter at once, perhaps behind an
equals sign, or are the next argument. -/
def readLetters (options : Options) : List Char → Step
  | [] => .next options
  | letter :: rest =>
    match letter with
    | 'v' => readLetters options.moreVerbose rest
    | 'h' => .stop .help
    | 'V' => .stop .version
    | 'c' =>
      match rest with
      | [] => .needsValue options.setLines?
      | '=' :: value => .ofSet (options.setLines? (String.ofList value))
      | value => .ofSet (options.setLines? (String.ofList value))
    | _ => .stop .misuse

/-- Reads an option with a long name, behind its hyphens; a value may follow an equals sign. -/
def readName (options : Options) (argument : String) : Step :=
  match splitAt? "=" argument with
  | some (name, value) =>
    if name = "hostname" then .ofSet (options.setHostname? value) else .stop .misuse
  | none =>
    match argument with
    | "json" => .ofSet options.setServes?
    | "isolated" => .ofSet options.setIsolated?
    | "hostname" => .needsValue options.setHostname?
    | "verbose" => .next options.moreVerbose
    | "help" => .stop .help
    | "version" => .stop .version
    | _ => .stop .misuse

/-- Whether an argument is an option; a single hyphen is none. -/
def isOption (argument : String) : Bool := startsWith "-" argument && argument ≠ "-"

/-- Reads one argument that is not behind `--`. -/
def readArgument (options : Options) (argument : String) : Step :=
  match stripStart? "--" argument with
  | some name => readName options name
  | none =>
    if isOption argument then readLetters options (argument.toList.drop 1)
    else .ofSet (options.setScript? argument)

/-- Reads the arguments behind `--`. -/
def readOperands : Options → List String → Start
  | options, [] => options.finish
  | options, operand :: rest =>
    match options.setScript? operand with
    | some options => readOperands options rest
    | none => .misuse

/-- Reads arguments. -/
def readArguments : Options → List String → Start
  | options, [] => options.finish
  | options, argument :: rest =>
    if argument = "--" then readOperands options rest
    else
      match readArgument options argument with
      | .next options => readArguments options rest
      | .stop start => start
      | .needsValue set =>
        match rest with
        | [] => .misuse
        | value :: rest =>
          match (if isOption value then none else set value) with
          | some options => readArguments options rest
          | none => .misuse

/-- What the program is started for with some arguments. -/
def Start.ofArguments (arguments : List String) : Start := readArguments {} arguments

/-! ## Texts -/

/-- How the program is to be called. -/
def usage : String := "Usage: simsh [OPTIONS] [SCRIPT]"

/-- What `--help` prints. -/
def helpText : String := unlines
  ["Simsh - Simulated Unix shell over a virtual filesystem",
   "",
   usage,
   "",
   "Arguments:",
   "  [SCRIPT]  File of commands to execute, one per line",
   "",
   "Options:",
   "  -c <COMMAND>               Execute the given command line(s), one per line",
   "      --json                 Speak the JSON-lines session protocol on stdin/stdout",
   "      --isolated             Give every session its own namespace",
   "      --hostname <HOSTNAME>  Simulated hostname",
   "  -v, --verbose...           Increase log verbosity (-v info, -vv debug, -vvv trace)",
   "  -h, --help                 Print help",
   "  -V, --version              Print version"]

/-- What `--version` prints. -/
def versionText : String := "simsh 0.1.0\n"

/-- What a misuse prints. -/
def misuseText : String := unlines
  ["error: invalid arguments", "", usage, "", "For more information, try '--help'."]

/-! ## The shell -/

namespace Options

/-- The host name that options choose. -/
def host (options : Options) : String := options.hostname.getD defaultHostname

/-- The shell that options choose. -/
def shell (options : Options) (now : Time.Instant) : Shell :=
  .new { Interpreter.usual with hostname := options.host }
    (if options.isolated then .perSession else .shared) {} now

end Options

end VirtualShell.Frontend
