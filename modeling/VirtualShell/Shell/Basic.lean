import VirtualShell.Shell.Interpreter
import VirtualShell.Store.Seed

/-!
# Shells

A shell keeps a table of sessions and the namespaces they act on: one for all of them, or one for
each, planted when the session is created and dropped when it is closed.  Session numbers count up
from one and are never given twice.
-/

namespace VirtualShell

open Time (Instant)

/-- A session of a shell, with its own namespace if it has one. -/
structure Seat where
  session : Session
  ownStore : Option Store

/-- A shell with its live sessions. -/
structure Shell where
  interpreter : Interpreter
  isolation : Isolation
  limits : Limits
  /-- The namespace of all sessions that have none of their own. -/
  commons : Store
  /-- The live sessions by number, in the order of their creation. -/
  seats : List (Nat × Seat)
  /-- The number of the next session.  As with nodes, a run creates fewer than 2^64 of them. -/
  nextId : Nat

namespace Shell

/-- A shell without sessions. -/
def new (interpreter : Interpreter) (isolation : Isolation) (limits : Limits) (now : Instant) :
    Shell :=
  ⟨interpreter, isolation, limits, .new limits now, [], 1⟩

/-- The live session with a number. -/
def seat? (shell : Shell) (id : Nat) : Option Seat :=
  (shell.seats.find? fun entry => entry.1 = id).map Prod.snd

/-- The namespace that a seat acts on. -/
def storeOf (shell : Shell) (seat : Seat) : Store := seat.ownStore.getD shell.commons

/-- The namespace of a session. -/
def store? (shell : Shell) (id : Nat) : Option Store := (shell.seat? id).map shell.storeOf

/-- The shell after a session has moved on and its namespace has changed. -/
def advance (shell : Shell) (id : Nat) (seat : Seat) (session : Session) (store : Store) : Shell :=
  let place (seat : Seat) : List (Nat × Seat) :=
    shell.seats.map fun entry => if entry.1 = id then (id, seat) else entry
  match seat.ownStore with
  | some _ => { shell with seats := place ⟨session, some store⟩ }
  | none => { shell with seats := place ⟨session, none⟩, commons := store }

/-- Begins a session in the home directory. -/
def create (shell : Shell) (now : Instant) : Nat × Shell × List Log.Event :=
  let own : Option Store :=
    match shell.isolation with
    | .shared => none
    | .perSession => some (.new shell.limits now)
  (shell.nextId,
    { shell with
      seats := shell.seats ++ [(shell.nextId, ⟨{}, own⟩)]
      nextId := shell.nextId + 1 },
    [.sessionCreated shell.nextId shell.isolation])

/-- What executing a line in a shell leaves behind. -/
structure Executed where
  report : Report
  shell : Shell
  draws : Draws
  events : List Log.Event

/-- Executes a line in a session.  Only an unknown session is a failure; all that can go wrong with
a command is in the report. -/
def execute (shell : Shell) (id : Nat) (line : String) (now : Instant) (draws : Draws) :
    Except Failure Executed :=
  match shell.seat? id with
  | none => .error (.sessionNotFound id)
  | some seat =>
    let outcome :=
      shell.interpreter.execute seat.session (shell.storeOf seat) line now draws
    .ok ⟨outcome.report, shell.advance id seat outcome.session outcome.store, outcome.draws,
      outcome.events⟩

/-- Ends a session, if it is live; a namespace of its own goes with it. -/
def close (shell : Shell) (id : Nat) : Bool × Shell × List Log.Event :=
  if (shell.seat? id).isSome then
    (true, { shell with seats := shell.seats.filter fun entry => entry.1 ≠ id },
      [.sessionClosed id])
  else (false, shell, [])

/-- The lines typed in a session, the oldest first. -/
def history (shell : Shell) (id : Nat) : Except Failure (List String) :=
  match shell.seat? id with
  | none => .error (.sessionNotFound id)
  | some seat => .ok seat.session.history

/-- The working directory of a session. -/
def cwd (shell : Shell) (id : Nat) : Except Failure String :=
  match shell.seat? id with
  | none => .error (.sessionNotFound id)
  | some seat => .ok seat.session.cwd

/-- The number of live sessions. -/
def sessionCount (shell : Shell) : Nat := shell.seats.length

/-- The names of all commands, in order. -/
def commands (shell : Shell) : List String := shell.interpreter.commands.names

end Shell

end VirtualShell
