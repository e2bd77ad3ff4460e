/-!
# Replies

What a command line answers: a text, perhaps an error, and whether it succeeded.  A command that
treats its operands one by one gathers what went wrong with each, shows all of it, and names the
first as its error.  The shell adds the working directory, and the reply becomes a report.
-/

namespace VirtualShell

/-- The answer of a command. -/
structure Reply where
  output : String
  error : Option String
  success : Bool
  deriving DecidableEq, Repr

namespace Reply

/-- Success, with a text. -/
def ok (output : String) : Reply := ⟨output, none, true⟩

/-- Failure, without a text. -/
def failed (error : String) : Reply := ⟨"", some error, false⟩

/-- The failures of the operands of one command: success if there are none. -/
def gather (failures : List String) : Reply :=
  match failures with
  | [] => ok ""
  | first :: _ => ⟨"\n".intercalate failures, some first, false⟩

end Reply

/-- A reply with the working directory after the command. -/
structure Report extends Reply where
  currentDirectory : String
  deriving DecidableEq, Repr

/-- What a front end prints to make a terminal forget what it shows. -/
def clearScreen : String := "\x1b[2J\x1b[H"

end VirtualShell
