import VirtualShell.Log.Event
import VirtualShell.Reply
import VirtualShell.Store.Basic

/-!
# The effects of simulated tools

A compiler, a package manager or a download is not run but acted: what it would print and the files
it would leave are written down as a script, and the script is performed on the store.  A
performance is all or nothing.  While the effects are carried out, the way back is kept on a stack;
if one of them fails, the stack is worked off from the top and the failure is answered.

* `Effect` — one change: a directory that has to be there, or a file with its content.
* `Undo` — the way back from one change.
* `ToolScript.perform` — carries out a script, or leaves everything as it was.
-/

namespace VirtualShell

open Time (Instant)

/-- One change that a simulated tool makes. -/
inductive Effect where
  /-- A directory that is there already is left alone. -/
  | makeDirectory (path : String)
  /-- A file that is there already is overwritten, and keeps its permissions if none are given. -/
  | write (path content : String) (permissions : Option String)
  deriving DecidableEq, Repr

namespace Effect

/-- A file with the usual permissions. -/
def file (path content : String) : Effect := .write path content none

/-- A file that can be executed. -/
def program (path content : String) : Effect := .write path content (some executablePermissions)

end Effect

/-- The way back from one change. -/
inductive Undo where
  | remove (path : String)
  | restore (path content permissions : String)
  deriving DecidableEq, Repr

namespace Undo

/-- Takes one change back.  A file that cannot be restored is only reported. -/
def apply (store : Store) (now : Instant) : Undo → Store × List Log.Event
  | remove path => ((store.delete path).getD store, [])
  | restore path content permissions =>
    match store.update path ⟨some content, some permissions⟩ now with
    | .ok (_, store) => (store, [])
    | .error failure => (store, [.restoreFailed path failure.message])

/-- Takes changes back, the latest first. -/
def applyAll (now : Instant) : List Undo → Store → Store × List Log.Event
  | [], store => (store, [])
  | step :: rest, store =>
    let (store, events) := step.apply store now
    let (store, more) := applyAll now rest store
    (store, events ++ more)

end Undo

/-- A store in the middle of a performance, with the way back to where it began. -/
structure Stage where
  store : Store
  /-- The changes so far, the latest first. -/
  undo : List Undo

namespace Stage

/-- Makes sure of a directory. -/
def makeDirectory (stage : Stage) (path : String) (now : Instant) :
    Except Failure Unit × Stage :=
  match stage.store.upsert (.directory path) now with
  | .error failure => (.error failure, stage)
  | .ok (_, store) =>
    (.ok (), ⟨store, if stage.store.contains path then stage.undo else .remove path :: stage.undo⟩)

/-- The way back from writing a file. -/
def undoWrite (store : Store) (path : String) : Undo :=
  match store.get? path with
  | none => .remove path
  | some old =>
    match old.body with
    | .file content => .restore path content old.permissions
    | .directory => .remove path

/-- Writes a file, then sets its permissions if some are given. -/
def write (stage : Stage) (path content : String) (permissions : Option String) (now : Instant) :
    Except Failure Unit × Stage :=
  match stage.store.upsert (.file path content) now with
  | .error failure => (.error failure, stage)
  | .ok (_, store) =>
    let undo := undoWrite stage.store path :: stage.undo
    match permissions with
    | none => (.ok (), ⟨store, undo⟩)
    | some permissions =>
      match store.update path ⟨none, some permissions⟩ now with
      | .error failure => (.error failure, ⟨store, undo⟩)
      | .ok (_, store) => (.ok (), ⟨store, undo⟩)

/-- Carries out one effect. -/
def carryOut (stage : Stage) (now : Instant) : Effect → Except Failure Unit × Stage
  | .makeDirectory path => stage.makeDirectory path now
  | .write path content permissions => stage.write path content permissions now

/-- Carries out effects in order, up to the first that fails. -/
def carryOutAll (now : Instant) : List Effect → Stage → Except Failure Unit × Stage
  | [], stage => (.ok (), stage)
  | effect :: rest, stage =>
    match stage.carryOut now effect with
    | (.ok (), stage) => carryOutAll now rest stage
    | (.error failure, stage) => (.error failure, stage)

end Stage

/-- What a simulated tool prints and what it changes. -/
structure ToolScript where
  output : String
  effects : List Effect
  deriving DecidableEq, Repr

namespace ToolScript

/-- Performs a script: success with its output, or the failure of its first effect that fails and a
store from which the earlier effects have been taken back. -/
def perform (script : ToolScript) (store : Store) (now : Instant) :
    Except Failure Reply × Store × List Log.Event :=
  match Stage.carryOutAll now script.effects ⟨store, []⟩ with
  | (.ok (), stage) => (.ok (.ok script.output), stage.store, [])
  | (.error failure, stage) => (.error failure, Undo.applyAll now stage.undo stage.store)

end ToolScript

end VirtualShell
