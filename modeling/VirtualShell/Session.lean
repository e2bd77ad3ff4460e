import VirtualShell.Log.Event
import VirtualShell.Store.Basic

/-!
# Sessions

A session is where a user stands: the working directory, the one before it, and the lines typed so
far.  Sessions share a namespace, so a working directory can vanish under one of them; before and
after each line a session settles in the nearest directory that is left.
-/

namespace VirtualShell

/-- The state of one session. -/
structure Session where
  cwd : String := Path.home
  /-- The working directory before the last change of directory. -/
  previous : Option String := none
  /-- The lines typed so far, the oldest first. -/
  history : List String := []
  deriving DecidableEq, Repr

namespace Session

/-- The path that an argument names for this session. -/
def resolve (session : Session) (raw : String) : String := Path.resolve session.cwd raw

/-- The session in another directory. -/
def enter (session : Session) (dir : String) : Session :=
  { session with cwd := dir, previous := some session.cwd }

/-- The session with one more line in its history. -/
def record (session : Session) (line : String) : Session :=
  { session with history := session.history ++ [line] }

/-- The nearest directory at or above the working directory; the top of the path if there is
none. -/
def nearestDirectory (store : Store) (cwd : String) : String :=
  let candidates := Path.selfAndAncestors cwd
  match candidates.find? store.isDirectory with
  | some dir => dir
  | none => candidates.getLastD cwd

/-- Moves a session whose working directory is gone to the nearest one that is left. -/
def settle (session : Session) (store : Store) : Session × List Log.Event :=
  let dir := nearestDirectory store session.cwd
  if dir = session.cwd then (session, [])
  else ({ session with cwd := dir }, [.directoryVanished session.cwd dir])

end Session

end VirtualShell
