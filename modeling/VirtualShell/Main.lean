import Std.Time.DateTime.Timestamp
import VirtualShell.Frontend.Program

/-!
# The program

The outer layer: it reads the clock, draws random numbers, reads lines and prints.  What a line
leads to and what is printed is decided elsewhere.  Each line is answered before the next is read,
by the same steps that make up a whole run.
-/

open VirtualShell
open VirtualShell.Frontend

/-- The reading of the clock. -/
def readClock : IO Time.Instant := do
  let time ← Std.Time.Timestamp.now
  let nanos := time.toNanosecondsSinceUnixEpoch.toInt
  return ⟨nanos.fdiv 1000000000, (nanos.fmod 1000000000).toNat⟩

/-- Enough random numbers for one line. -/
def drawNumbers : IO Draws := (List.range 8).mapM fun _ => IO.rand 0 999999

/-- Prints. -/
def printAll (printed : Printed) : IO Unit := do
  IO.print printed.out
  (← IO.getStdout).flush
  IO.eprint printed.err

/-- The bytes of the standard input behind some bytes of a line, up to the end of that line. -/
partial def lineBytes (input : IO.FS.Stream) (line : ByteArray) : IO ByteArray := do
  let byte ← input.read 1
  if byte.isEmpty then return line
  else if byte.toList = [0x0A] then return line ++ byte
  else lineBytes input (line ++ byte)

/-- The next line of the standard input, if there is one. -/
def nextLine : IO (Option (Except ReadFault String)) := do
  let bytes ← lineBytes (← IO.getStdin) .empty
  if bytes.isEmpty then return none
  match String.fromUTF8? bytes with
  | some line => return some (.ok ((Text.linesOf line).headD ""))
  | none => return some (.error .notText)

/-- The events that are logged, from the gravest on. -/
def logged (verbosity : Nat) (event : Log.Event) : Bool :=
  match event.level with
  | .error | .warn => true
  | .info => 1 ≤ verbosity
  | .debug => 2 ≤ verbosity

/-- Logs events. -/
def logAll (verbosity : Nat) (now : Time.Instant) (events : List Log.Event) : IO Unit :=
  for event in events.filter (logged verbosity) do
    IO.eprintln (event.line now)

/-- Enters a line at a console and prints what it answers. -/
def enterLine (options : Options) (console : Console) (line : String) : IO Entered := do
  let now ← readClock
  let entered := { console with draws := ← drawNumbers }.enter line now
  logAll options.verbosity now entered.events
  printAll (printReport entered.report)
  return entered

/-- Executes the lines of a text; the code with which the program ends. -/
def runLines (options : Options) (console : Console) (text : String) : IO UInt32 := do
  let mut console := console
  let mut success := true
  for line in Console.scriptLines text do
    let entered ← enterLine options console line
    console := entered.console
    success := entered.report.success
  return if success then 0 else 1

/-- Why the system could not read a file.  A directory is opened and only then refused, without its
name. -/
def readFault : IO.Error → ReadFault
  | .noFileOrDirectory .. => .missing
  | .permissionDenied .. => .denied
  | .inappropriateType (some _) .. => .notADirectory
  | .inappropriateType none .. => .isADirectory
  | .userError _ => .notText
  | error => .other (toString error)

/-- Executes the lines of a file. -/
def runFile (options : Options) (console : Console) (file : String) : IO UInt32 := do
  match ← (IO.FS.readFile file).toBaseIO with
  | .ok text => runLines options console text
  | .error error =>
    IO.eprint (unreadable file (readFault error))
    return 1

/-- Converses at a prompt; the code with which the program ends. -/
partial def converse (options : Options) (cwd : String) (console : Console) : IO UInt32 := do
  printAll ⟨Console.prompt options.host cwd, ""⟩
  match ← nextLine with
  | none => return 0
  | some (.error fault) =>
    IO.eprint (unreadLine fault)
    return 1
  | some (.ok line) =>
    if Console.isExit line then return 0
    let entered ← enterLine options console line
    converse options entered.report.currentDirectory entered.console

/-- Answers requests; the code with which the program ends. -/
partial def serve (options : Options) (service : Service) : IO UInt32 := do
  match ← nextLine with
  | none => return 0
  | some (.error fault) =>
    IO.eprint (unreadRequest fault)
    return 1
  | some (.ok line) =>
    let now ← readClock
    match { service with draws := ← drawNumbers }.answerLine? line now with
    | none => serve options service
    | some served =>
      logAll options.verbosity now served.events
      printAll ⟨served.response.text ++ "\n", ""⟩
      serve options served.service

/-- Runs the program with options. -/
def runProgram (options : Options) : IO UInt32 := do
  let now ← readClock
  let shell := options.shell now
  let begin : IO Console := do
    let (console, events) := Console.start shell [] now
    logAll options.verbosity now events
    return console
  match options.task with
  | .lines text => runLines options (← begin) text
  | .script file => runFile options (← begin) file
  | .serve => serve options ⟨shell, []⟩
  | .converse => do converse options Path.home (← begin)

/-- The program. -/
def main (arguments : List String) : IO UInt32 := do
  match Start.ofArguments arguments with
  | .run options => runProgram options
  | .help => printAll ⟨helpText, ""⟩ *> pure 0
  | .version => printAll ⟨versionText, ""⟩ *> pure 0
  | .misuse => printAll ⟨"", misuseText⟩ *> pure 2
