import VirtualShell.Command.Files

/-!
# Making directories beside other sessions

A common namespace is behind a lock, and the lock is held for one look-up or one change at a time.
So while `mkdir -p` makes its directories, other sessions may act whenever it lets go.  It provides
for one such case: where it has looked in vain and then finds the path occupied, it looks again, and
goes on if a directory has come in between.

Here the directories are made in that way, step by step, with what the others do as a parameter.
-/

namespace VirtualShell.Command

/-- The moments at which the lock is free. -/
inductive Moment where
  | beforeLooking
  | beforeMaking
  | beforeLookingAgain
  deriving DecidableEq, Repr

/-- What other sessions do to a namespace at each moment that the making of a path gives them. -/
abbrev Others := Moment → String → Store → Store

/-- There are no other sessions, or none that acts. -/
def nobody : Others := fun _ _ store => store

/-- Makes sure of one directory. -/
def makeBeside (others : Others) (now : Time.Instant) (path : String) (store : Store) :
    Except Failure Unit × Store :=
  let store := others .beforeLooking path store
  match store.get? path with
  | some node => (if node.isDirectory then .ok () else .error (.alreadyExists path), store)
  | none =>
    let store := others .beforeMaking path store
    match store.create (.directory path) now with
    | .ok (_, store) => (.ok (), store)
    | .error (.alreadyExists occupied) =>
      let store := others .beforeLookingAgain path store
      (if store.isDirectory path then .ok () else .error (.alreadyExists occupied), store)
    | .error failure => (.error failure, store)

/-- Makes sure of a directory at each of some paths, in order, up to the first that fails. -/
def makeChainBeside (others : Others) (now : Time.Instant) :
    List String → Store → Except Failure Unit × Store
  | [], store => (.ok (), store)
  | path :: rest, store =>
    match makeBeside others now path store with
    | (.ok (), store) => makeChainBeside others now rest store
    | (.error failure, store) => (.error failure, store)

end VirtualShell.Command
