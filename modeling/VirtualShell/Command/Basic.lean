import VirtualShell.Effect
import VirtualShell.Metrics
import VirtualShell.Session
import VirtualShell.Url.Naming

/-!
# Commands

A command gets its name, its arguments and a view of the session, and gives a verdict.  What it may
do besides is part of its type: a command that only looks has no way to change the store, a
simulated tool can change it only through a script that is performed as a whole, only `cd` names a
new working directory, and only the monitors take random numbers.  A statement that some commands
leave something alone is therefore read off how they are built.

* `Invocation` — what a command is called with.
* `Verdict` — a reply, a failure that the shell reports under the command's name, or a panic.
* `Command` — the five kinds of command.
* `splitFlags` — single-letter options apart from operands.
-/

namespace VirtualShell

open Time (Instant)

/-- What a command is called with. -/
structure Invocation where
  /-- The name that was typed; several names may run the same command. -/
  name : String
  args : List String
  session : Session
  hostname : String
  policy : Log.Policy
  /-- How the names of remote hosts are read. -/
  naming : Url.Naming
  now : Instant

namespace Invocation

/-- The working directory. -/
def cwd (call : Invocation) : String := call.session.cwd

/-- The path that an argument names. -/
def resolve (call : Invocation) (raw : String) : String := call.session.resolve raw

end Invocation

/-- How a command ends. -/
inductive Verdict where
  | reply (reply : Reply)
  | failure (failure : Failure)
  /-- The command broke off. -/
  | panic (message : String)

namespace Verdict

/-- Success, with a text. -/
def ok (output : String) : Verdict := .reply (.ok output)

/-- Failure, with a text. -/
def failed (error : String) : Verdict := .reply (.failed error)

/-- The verdict of a check that may have failed. -/
def ofExcept : Except Verdict Verdict → Verdict
  | .ok verdict => verdict
  | .error verdict => verdict

end Verdict

/-- What a simulated tool does: it speaks and leaves all as it is, or it performs a script. -/
inductive Plan where
  | say (verdict : Verdict)
  | perform (script : ToolScript)

namespace Plan

/-- A tool that succeeds and changes nothing. -/
def ok (output : String) : Plan := .say (.ok output)

/-- A tool that fails and changes nothing. -/
def failed (error : String) : Plan := .say (.failed error)

end Plan

/-- A command, by what it may do. -/
inductive Command where
  /-- Looks at the namespace. -/
  | inspect (run : Invocation → Store → Verdict)
  /-- Draws system figures. -/
  | monitor (run : Invocation → Draws → Verdict × Draws)
  /-- Names a new working directory. -/
  | navigate (run : Invocation → Store → Verdict × Option String)
  /-- Acts a tool by a script, and logs what it contacts. -/
  | tool (run : Invocation → Store → Plan × List Log.Event)
  /-- Changes the namespace step by step. -/
  | edit (run : Invocation → Store → Verdict × Store)

/-! ## Arguments -/

/-- Whether an argument is a group of single-letter flags: one hyphen and at least one letter. -/
def flagLetters? (arg : String) : Option (List Char) :=
  match arg.toList with
  | '-' :: '-' :: _ => none
  | '-' :: c :: cs => some (c :: cs)
  | _ => none

/-- Flags and operands, each in the order they were typed. -/
structure Arguments where
  flags : List Char
  operands : List String
  deriving DecidableEq, Repr

/-- Takes flags apart from operands; the first flag that is not allowed is an error. -/
def splitFlags (allowed : String) : List String → Except Char Arguments
  | [] => .ok ⟨[], []⟩
  | arg :: rest =>
    match flagLetters? arg with
    | some letters =>
      match letters.find? fun c => !allowed.toList.contains c with
      | some c => .error c
      | none => do
        let more ← splitFlags allowed rest
        return { more with flags := letters ++ more.flags }
    | none => do
      let more ← splitFlags allowed rest
      return { more with operands := arg :: more.operands }

/-- `splitFlags`, with the usual complaint about a flag that is not allowed. -/
def flagsOr (call : Invocation) (allowed : String) : Except Verdict Arguments :=
  match splitFlags allowed call.args with
  | .ok arguments => .ok arguments
  | .error c =>
    .error (.failed (call.name ++ ": invalid option -- '" ++ String.singleton c ++ "'"))

/-- A text between apostrophes. -/
def quoted (text : String) : String := "'" ++ text ++ "'"

end VirtualShell
