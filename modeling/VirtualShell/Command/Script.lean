import VirtualShell.Command.Basic
import VirtualShell.Text.Blank

/-!
# Running programs

No program is ever executed.  An interpreter reads its source and shows the texts that are printed
there: the text between quotation marks directly behind each call of the language's print function.
A call whose first argument is anything else prints nothing.
-/

namespace VirtualShell.Command

open Text

/-! ## Sources -/

/-- The source that an operand names. -/
def source (call : Invocation) (store : Store) (operand : String) : Except Failure Node :=
  let path := call.resolve operand
  match store.get? path with
  | none => .error (.notFound path)
  | some node => if node.isDirectory then .error (.isADirectory path) else .ok node

/-- The text between quotation marks that an argument begins with: double, single or back
quotes. -/
def literal? (argument : List Char) : Option (List Char) :=
  match argument.dropWhile isBlank with
  | [] => none
  | mark :: rest =>
    if mark = '"' || mark = '\'' || mark = '\x60' then (cutAt? [mark] rest).map Prod.fst
    else none

/-- The beginning of a call: the name of the function and the parenthesis. -/
def opening (function : List Char) : List Char := function ++ ['(']

/-- Each search is left with less of the source. -/
theorem length_lt_of_cutAt? {function source left argument : List Char}
    (h : cutAt? (opening function) source = some (left, argument)) :
    argument.length < source.length := by
  rw [cutAt?_eq_some h]
  simp only [opening, List.length_append, List.length_cons]
  omega

/-- The texts that a source prints by a function.  The search goes on right behind the parenthesis
of each call that it finds, whatever the argument is. -/
def literals (function source : List Char) : List (List Char) :=
  match h : cutAt? (opening function) source with
  | none => []
  | some (_, argument) =>
    have : argument.length < source.length := length_lt_of_cutAt? h
    (literal? argument).toList ++ literals function argument
termination_by source.length

/-- The texts that a source prints by a function, one a line. -/
def printedBy (function source : String) : List String :=
  (literals function.toList source.toList).map String.ofList

/-- What running a source shows; one that prints nothing is only said to have run. -/
def runSource (function source : String) : String :=
  let lines := printedBy function source
  if lines.isEmpty then "Script executed successfully" else "\n".intercalate lines

/-! ## Python -/

/-- The version of Python. -/
def pythonVersion : String := "3.11.4"

/-- What `python` says when it is given nothing. -/
def pythonGreeting : String := "\n".intercalate
  ["Python " ++ pythonVersion ++ " (main, Jun  7 2023, 12:45:48) [GCC 11.4.0] on linux",
   "Type \"help\", \"copyright\", \"credits\" or \"license\" for more information.",
   "(interactive mode is not available in this shell)"]

/-- `python` runs a file, or the code behind `-c`. -/
def python : Command := .inspect fun call store =>
  match call.args with
  | [] => .ok pythonGreeting
  | "--version" :: _ | "-V" :: _ => .ok ("Python " ++ pythonVersion)
  | "-c" :: words =>
    let code := trimMatches (fun c => c = '"' || c = '\'') (" ".intercalate words)
    .ok ("\n".intercalate (printedBy "print" code))
  | file :: _ =>
    match source call store file with
    | .ok node => .ok (runSource "print" node.text)
    | .error failure =>
      .failed (call.name ++ ": can't open file " ++ quoted (call.resolve file) ++ ": [Errno 2] "
        ++ failure.message)

/-! ## Node -/

/-- The version of Node. -/
def nodeVersion : String := "v20.11.0"

/-- What `node` says when it is given nothing. -/
def nodeGreeting : String := "\n".intercalate
  ["Welcome to Node.js " ++ nodeVersion ++ ".",
   "Type \".help\" for more information.",
   "(interactive mode is not available in this shell)"]

/-- `node` runs a file, or the code behind `-e`. -/
def node : Command := .inspect fun call store =>
  match call.args with
  | [] => .ok nodeGreeting
  | "-v" :: _ | "--version" :: _ => .ok nodeVersion
  | "-e" :: words | "--eval" :: words =>
    .ok ("\n".intercalate (printedBy "console.log" (" ".intercalate words)))
  | file :: _ =>
    match source call store file with
    | .ok node => .ok (runSource "console.log" node.text)
    | .error (.isADirectory path) =>
      .failed ("Error: EISDIR: illegal operation on a directory, read " ++ quoted path)
    | .error _ => .failed ("Error: Cannot find module " ++ quoted (call.resolve file))

/-! ## Java -/

/-- The version of Java. -/
def javaVersion : String := "17.0.9"

/-- What `java` says about its version. -/
def javaVersionText : String := "\n".intercalate
  ["openjdk version \"" ++ javaVersion ++ "\" 2023-10-17",
   "OpenJDK Runtime Environment (build " ++ javaVersion ++ "+9)",
   "OpenJDK 64-Bit Server VM (build " ++ javaVersion ++ "+9, mixed mode, sharing)"]

/-- Runs the class with a name: the class has to be there, and shows what its source prints if that
is there too. -/
def runClass (call : Invocation) (store : Store) (name : String) : Verdict :=
  match source call store (name ++ ".class") with
  | .error _ =>
    .failed ("Error: Could not find or load main class " ++ name
      ++ "\nCaused by: java.lang.ClassNotFoundException: " ++ name)
  | .ok _ =>
    match source call store (name ++ ".java") with
    | .ok node => .ok (runSource "System.out.println" node.text)
    | .error _ => .ok "Program executed successfully"

/-- `java` runs a compiled class. -/
def java : Command := .inspect fun call store =>
  match call.args.find? fun arg => !startsWith "-" arg with
  | some operand => runClass call store ((stripEnd? ".class" operand).getD operand)
  | none =>
    if call.args.any fun arg => arg = "-version" || arg = "--version" then .ok javaVersionText
    else .failed "Usage: java [options] <mainclass> [args...]"

end VirtualShell.Command
