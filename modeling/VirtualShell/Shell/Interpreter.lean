import VirtualShell.Command.Basic
import VirtualShell.Text.Blank

/-!
# Executing a line

A line is cut into words; the first names a command and the others are its arguments.  Whatever the
command does, executing a line ends in a report: a failure and a panic become failed replies, and a
name that is not registered is one too.

The session settles twice: before the command, because other sessions may have removed its working
directory since, and after it, because the command itself may have.  A blank line does nothing of
all this and is not recorded.
-/

namespace VirtualShell

open Time (Instant)

/-- The registered commands by name. -/
abbrev Registry := List (String × Command)

namespace Registry

/-- The command with a name. -/
def find? (registry : Registry) (name : String) : Option Command :=
  (List.find? (fun entry => entry.1 = name) registry).map Prod.snd

/-- Registers a command, in the place of one that has the name already. -/
def register (registry : Registry) (name : String) (command : Command) : Registry :=
  (name, command) :: registry.filter fun entry => entry.1 ≠ name

/-- The names in use, in order. -/
def names (registry : Registry) : List String :=
  (registry.map Prod.fst).mergeSort fun a b => decide (a ≤ b)

end Registry

/-- What is the same for all sessions of a shell. -/
structure Interpreter where
  commands : Registry
  hostname : String
  policy : Log.Policy
  /-- How the names of remote hosts are read. -/
  naming : Url.Naming := .plain

/-- What a line leaves behind. -/
structure Outcome where
  report : Report
  session : Session
  store : Store
  draws : Draws
  events : List Log.Event

/-- What a command leaves behind, before its verdict is worded. -/
structure Ran where
  verdict : Verdict
  session : Session
  store : Store
  draws : Draws
  events : List Log.Event

namespace Command

/-- Runs a command with what it may touch. -/
def run (command : Command) (call : Invocation) (store : Store) (draws : Draws) : Ran :=
  match command with
  | inspect answer => ⟨answer call store, call.session, store, draws, []⟩
  | monitor answer =>
    let (verdict, draws) := answer call draws
    ⟨verdict, call.session, store, draws, []⟩
  | navigate answer =>
    match answer call store with
    | (verdict, some dir) => ⟨verdict, call.session.enter dir, store, draws, []⟩
    | (verdict, none) => ⟨verdict, call.session, store, draws, []⟩
  | tool plan =>
    match plan call store with
    | (.say verdict, events) => ⟨verdict, call.session, store, draws, events⟩
    | (.perform script, events) =>
      match script.perform store call.now with
      | (.ok reply, store, more) => ⟨.reply reply, call.session, store, draws, events ++ more⟩
      | (.error failure, store, more) =>
        ⟨.failure failure, call.session, store, draws, events ++ more⟩
  | edit answer =>
    let (verdict, store) := answer call store
    ⟨verdict, call.session, store, draws, []⟩

end Command

namespace Verdict

/-- The reply that a verdict becomes under a command's name. -/
def toReply (name : String) : Verdict → Reply
  | .reply answer => answer
  | .failure cause => .failed (name ++ ": " ++ cause.message)
  | .panic _ => .failed (name ++ ": " ++ (Failure.internal "handler panicked").message)

/-- What a verdict tells the log. -/
def events (name : String) : Verdict → List Log.Event
  | .failure (.limitExceeded breach) => [.limitReached name breach.message]
  | .panic message => [.panicked name (Log.sanitize message)]
  | _ => []

end Verdict

namespace Interpreter

/-- What a failed reply tells the log. -/
def failureEvents (policy : Log.Policy) (name : String) (reply : Reply) : List Log.Event :=
  match reply.error with
  | some error =>
    [.commandFailed (policy.truncate name) (Log.sanitize (policy.truncate error))]
  | none => []

/-- Executes the words of a line in a session that has settled. -/
def dispatch (interpreter : Interpreter) (name : String) (args : List String) (session : Session)
    (store : Store) (now : Instant) (draws : Draws) : Ran :=
  match interpreter.commands.find? name with
  | none => ⟨.failed (name ++ ": command not found"), session, store, draws, []⟩
  | some command =>
    let call : Invocation :=
      ⟨name, args, session, interpreter.hostname, interpreter.policy, interpreter.naming, now⟩
    command.run call store draws

/-- Executes a line. -/
def execute (interpreter : Interpreter) (session : Session) (store : Store) (line : String)
    (now : Instant) (draws : Draws) : Outcome :=
  let line := Text.trim line
  match Text.words line with
  | [] => ⟨⟨.ok "", session.cwd⟩, session, store, draws, []⟩
  | name :: args =>
    let (session, before) := (session.record line).settle store
    let announced := Log.Event.dispatched (interpreter.policy.describe name args) session.cwd
    let ran := interpreter.dispatch name args session store now draws
    let reply := ran.verdict.toReply name
    let (session, after) := ran.session.settle ran.store
    { report := ⟨reply, session.cwd⟩
      session := session
      store := ran.store
      draws := ran.draws
      events := before ++ [announced] ++ ran.events ++ ran.verdict.events name
        ++ failureEvents interpreter.policy name reply ++ after }

end Interpreter

end VirtualShell
