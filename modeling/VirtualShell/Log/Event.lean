import VirtualShell.Log.Policy
import VirtualShell.Time.Instant

/-!
# Log events

What a shell tells its log, as events of a few kinds.  An event is made of texts that have already
passed the log policy where they hold something that a user typed; its level, its message and its
named fields are read off its kind.
-/

namespace VirtualShell

/-- Whether the sessions of a shell see each other's files. -/
inductive Isolation where
  /-- All sessions act on one namespace. -/
  | shared
  /-- Each session has a namespace of its own. -/
  | perSession
  deriving DecidableEq, Repr

/-- The name under which a choice of isolation is logged. -/
def Isolation.name : Isolation → String
  | shared => "Shared"
  | perSession => "PerSession"

namespace Log

/-- How grave an event is. -/
inductive Level where
  | error
  | warn
  | info
  | debug
  deriving DecidableEq, Repr

/-- Something that a shell tells its log. -/
inductive Event where
  | sessionCreated (session : Nat) (isolation : Isolation)
  | sessionClosed (session : Nat)
  /-- A command line is about to be executed. -/
  | dispatched (command cwd : String)
  | commandFailed (command error : String)
  | limitReached (command error : String)
  | panicked (command message : String)
  /-- The working directory is gone, and the session has moved up. -/
  | directoryVanished (source target : String)
  /-- A file could not be given back what a failed tool had overwritten. -/
  | restoreFailed (path error : String)
  | cloned (remote target : String)
  | fetched (url : String)
  | downloaded (url : String)
  | connectionRefused (host : String)
  deriving DecidableEq, Repr

namespace Event

/-- The level of an event. -/
def level : Event → Level
  | panicked .. => .error
  | limitReached .. | restoreFailed .. => .warn
  | sessionCreated .. | sessionClosed .. => .info
  | _ => .debug

/-- What an event says. -/
def message : Event → String
  | sessionCreated .. => "session created"
  | sessionClosed .. => "session closed"
  | dispatched .. => "dispatch"
  | commandFailed .. => "command failed"
  | limitReached .. => "store limit reached"
  | panicked .. => "handler panicked"
  | directoryVanished .. => "working directory vanished"
  | restoreFailed .. => "rollback failed to restore file"
  | cloned .. => "simulated clone"
  | fetched .. => "simulated fetch"
  | downloaded .. => "simulated download"
  | connectionRefused .. => "ssh refused"

/-- The named fields of an event. -/
def fields : Event → List (String × String)
  | sessionCreated session isolation =>
    [("session", toString session), ("isolation", isolation.name)]
  | sessionClosed session => [("session", toString session)]
  | dispatched command cwd => [("command", command), ("cwd", cwd)]
  | commandFailed command error => [("command", command), ("error", error)]
  | limitReached command error => [("command", command), ("error", error)]
  | panicked command message => [("command", command), ("panic", message)]
  | directoryVanished source target => [("from", source), ("to", target)]
  | restoreFailed path error => [("path", path), ("error", error)]
  | cloned remote target => [("remote", remote), ("target", target)]
  | fetched url => [("url", url)]
  | downloaded url => [("url", url)]
  | connectionRefused host => [("target_host", host)]

/-- The name of a level. -/
def levelName : Level → String
  | .error => "ERROR"
  | .warn => "WARN"
  | .info => "INFO"
  | .debug => "DEBUG"

/-- An event as a line of the log: when, how grave, what, and the fields. -/
def line (event : Event) (now : Time.Instant) : String :=
  " ".intercalate
    ([now.timestamp "Z", Text.padLeft 5 (levelName event.level), event.message]
      ++ event.fields.map fun field => field.1 ++ "=" ++ field.2)

end Event

end Log

end VirtualShell
