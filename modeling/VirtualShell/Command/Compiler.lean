import VirtualShell.Command.Script

/-!
# Compilers

A compiler makes sure that its sources are there and leaves a file in the place of the program: a
class beside each Java source, one executable for all C sources.  All files are written or none.
-/

namespace VirtualShell.Command

open Text

/-! ## Java -/

/-- The class file that a source of Java makes, or why there is none. -/
def classFile (call : Invocation) (store : Store) (operand : String) : Except Plan Effect :=
  match stripEnd? ".java" operand with
  | none =>
    .error (.failed ("error: Class names, " ++ quoted operand
      ++ ", are only accepted if annotation processing is explicitly requested"))
  | some stem =>
    match source call store operand with
    | .error (.notFound _) => .error (.failed ("error: file not found: " ++ operand))
    | .error failure => .error (.say (.failure failure))
    | .ok _ =>
      .ok (.file (call.resolve (stem ++ ".class"))
        ("CAFEBABE compiled from " ++ Path.fileName operand))

/-- `javac` compiles sources of Java, if all of them can be. -/
def javac : Command := .tool fun call store =>
  let operands := call.args.filter fun arg => !startsWith "-" arg
  let plan :=
    if operands.isEmpty then .failed "error: no source files"
    else
      match operands.mapM (classFile call store) with
      | .ok effects => .perform ⟨"", effects⟩
      | .error plan => plan
  (plan, [])

/-! ## C -/

/-- What the arguments of `gcc` ask for. -/
inductive BuildRequest where
  | version
  /-- There is no file name behind the option for the output. -/
  | outputMissing
  | build (output : Option String) (inputs : List String)
  deriving DecidableEq, Repr

/-- Reads the arguments of `gcc`; the last output counts, and other options are ignored. -/
def readBuild (output : Option String) (inputs : List String) : List String → BuildRequest
  | [] => .build output inputs.reverse
  | "-o" :: [] => .outputMissing
  | "-o" :: file :: rest => readBuild (some file) inputs rest
  | arg :: rest =>
    if arg = "--version" then .version
    else if startsWith "-" arg then readBuild output inputs rest
    else readBuild output (arg :: inputs) rest

/-- The complaint of `gcc` when there is nothing to compile. -/
def noInputFiles (name : String) : String :=
  name ++ ": fatal error: no input files\ncompilation terminated."

/-- Compiles inputs into an executable, if all of them are there. -/
def buildProgram (call : Invocation) (store : Store) (output : String) (inputs : List String) :
    Plan :=
  match inputs.mapM fun input => (source call store input).mapError fun failure =>
      call.name ++ ": error: " ++ input ++ ": " ++ failure.message ++ "\n"
        ++ noInputFiles call.name with
  | .error complaint => .failed complaint
  | .ok _ =>
    .perform ⟨"", [.program (call.resolve output)
      ("ELF 64-bit LSB executable built from " ++ " ".intercalate inputs)]⟩

/-- `gcc` compiles sources of C into one executable. -/
def gcc : Command := .tool fun call store =>
  let plan :=
    match readBuild none [] call.args with
    | .version => .ok (call.name ++ " (Ubuntu 11.4.0-1ubuntu1~22.04) 11.4.0")
    | .outputMissing => .failed (call.name ++ ": error: missing filename after '-o'")
    | .build _ [] => .failed (noInputFiles call.name)
    | .build output inputs => buildProgram call store (output.getD "a.out") inputs
  (plan, [])

end VirtualShell.Command
