import VirtualShell.Limits

/-!
# Failures

Why an operation failed, as a cause.  The wording is the reason alone (`File exists`), and commands
put their name and the operand that the user typed in front of it, so that one cause reads
`cat: notes: Is a directory` in one place and `rm: cannot remove 'notes': Is a directory` in
another.
-/

namespace VirtualShell

/-- Why an operation failed. -/
inductive Failure where
  /-- The path is not occupied. -/
  | notFound (path : String)
  /-- A directory stands where a file was expected. -/
  | isADirectory (path : String)
  /-- A file stands where a directory was expected. -/
  | notADirectory (path : String)
  /-- The path is occupied. -/
  | alreadyExists (path : String)
  /-- An argument is absent. -/
  | missingOperand (operand : String)
  /-- The request is not understood; the text says which. -/
  | unsupported (message : String)
  /-- A simulated remote host refuses the connection. -/
  | connectionRefused (host : String) (port : Nat)
  /-- A limit of the namespace was exceeded. -/
  | limitExceeded (breach : Breach)
  /-- No live session has this number. -/
  | sessionNotFound (session : Nat)
  /-- A command went wrong in itself. -/
  | internal (message : String)
  deriving DecidableEq, Repr

/-- The kinds into which failures are sorted. -/
inductive FailureKind where
  | notFound
  | wrongType
  | alreadyExists
  | missingOperand
  | unsupportedOperation
  | simulatedNetworkFailure
  | resourceLimit
  | internal
  deriving DecidableEq, Repr

namespace Failure

/-- The reason in words. -/
def message : Failure → String
  | notFound _ => "No such file or directory"
  | isADirectory _ => "Is a directory"
  | notADirectory _ => "Not a directory"
  | alreadyExists _ => "File exists"
  | missingOperand operand => "missing " ++ operand
  | unsupported message => message
  | connectionRefused host port =>
    "connect to host " ++ host ++ " port " ++ toString port ++ ": Connection refused"
  | limitExceeded breach => breach.message
  | sessionNotFound session => "session " ++ toString session ++ " not found"
  | internal message => "internal error: " ++ message

/-- The kind of a failure. -/
def kind : Failure → FailureKind
  | notFound _ | sessionNotFound _ => .notFound
  | isADirectory _ | notADirectory _ => .wrongType
  | alreadyExists _ => .alreadyExists
  | missingOperand _ => .missingOperand
  | unsupported _ => .unsupportedOperation
  | connectionRefused .. => .simulatedNetworkFailure
  | limitExceeded _ => .resourceLimit
  | internal _ => .internal

/-- The path that a failure speaks of. -/
def path? : Failure → Option String
  | notFound path | isADirectory path | notADirectory path | alreadyExists path => some path
  | _ => none

end Failure

end VirtualShell
