import VirtualShell.Store.Basic

/-!
# A store that changes in place

The operations of `Store.Basic` answer a new store.  A namespace behind a lock is one store that
changes under its operations: each looks something up, checks, writes one field after another, and
where it gives up, whatever it has written so far stays written.  Here the five operations are set
out in that way, step by step in the order in which they look, check and write.

* `Edit` — a computation on one store; a failure takes nothing back.
* `erase`, `put`, `overwrite` — the ways of writing to the map.
* `create` to `rename` — the operations.  A move carries its nodes one at a time, in whatever order
  the map lists their paths; `enumerate` stands for that order.
-/

namespace VirtualShell.Store

open Time (Instant)

/-- A computation on a store that changes in place.  It ends with a result or a failure, and with
the store as it was left in either case. -/
abbrev Edit := EStateM Failure Store

/-! ## Writing to the map -/

/-- Takes the node at a path out, and nothing else. -/
def erase (store : Store) (path : String) : Store :=
  { store with nodes := store.nodes.filter fun node => node.path ≠ path }

/-- Puts a node at its path, over the one that is there.  Nodes keep the order of their numbers. -/
def put (store : Store) (node : Node) : Store :=
  let others := (store.erase node.path).nodes
  { store with
    nodes := (others.filter fun other => other.id < node.id)
      ++ node :: others.filter fun other => node.id ≤ other.id }

/-- Writes to the node at a path, if there is one. -/
def overwrite (store : Store) (path : String) (change : Node → Node) : Store :=
  match store.get? path with
  | none => store
  | some node => store.replace (change node)

/-- Takes a node out at its old path and puts it in at its new one. -/
def carry (source target : String) (now : Instant) (store : Store) (path : String) : Store :=
  match store.get? path with
  | none => store
  | some node => (store.erase path).put (moved source target now node)

namespace InPlace

/-- The node at a path as it is now. -/
def nodeAt (path : String) : Edit Node := do
  match (← get).get? path with
  | some node => return node
  | none => throw (.notFound path)

/-! ## The operations -/

/-- Creates a node at a path that is not occupied. -/
def create (draft : Draft) (now : Instant) : Edit Node := do
  if (← get).contains draft.path then
    throw (.alreadyExists draft.path)
  MonadExcept.ofExcept ((← get).checkNew draft)
  modifyGet (·.insert draft now)

/-- Creates a node, or writes to the one that is there: text and size of a file, then the time. -/
def upsert (draft : Draft) (now : Instant) : Edit Node := do
  if !(← get).contains draft.path then
    MonadExcept.ofExcept ((← get).checkNew draft)
    modifyGet (·.insert draft now)
  else
    let existing ← nodeAt draft.path
    match existing.body, draft.body with
    | .file _, .file content =>
      MonadExcept.ofExcept (within ((← get).limits.fileSize? content.utf8ByteSize))
      modify (·.overwrite draft.path fun node => { node with body := .file content })
      modify (·.overwrite draft.path fun node => { node with size := content.utf8ByteSize })
    | .directory, .directory => pure ()
    | .directory, .file _ => throw (.isADirectory draft.path)
    | .file _, .directory => throw (.alreadyExists draft.path)
    modify (·.overwrite draft.path fun node => { node with updated := now })
    nodeAt draft.path

/-- Gives a file a new text, if there is one: its size first. -/
def amendText (path : String) (existing : Node) (content : Option String) : Edit Unit := do
  match existing.body, content with
  | .file _, some content =>
    MonadExcept.ofExcept (within ((← get).limits.fileSize? content.utf8ByteSize))
    modify (·.overwrite path fun node => { node with size := content.utf8ByteSize })
    modify (·.overwrite path fun node => { node with body := .file content })
  | _, _ => pure ()

/-- Amends the node at a path: its text, then its permissions, then the time. -/
def update (path : String) (amendment : Amendment) (now : Instant) : Edit Node := do
  let existing ← nodeAt path
  amendText path existing amendment.content
  match amendment.permissions with
  | some permissions => modify (·.overwrite path fun node => { node with permissions })
  | none => pure ()
  modify (·.overwrite path fun node => { node with updated := now })
  nodeAt path

/-- Removes a node, then all below it.  Whether there was a node is found out by taking it out. -/
def delete (path : String) : Edit Bool := do
  if path = "/" then
    return false
  let removed := (← get).get? path
  modify (·.erase path)
  if removed.isNone then
    return false
  modify fun store =>
    { store with nodes := store.nodes.filter fun node => !Path.isBelow node.path path }
  return true

/-- The paths that a move carries, in the order of the numbers of their nodes. -/
def moving (store : Store) (source : String) : List String :=
  (store.nodes.filter (movesWith source)).map Node.path

/-- Checks the new paths of a move one after the other. -/
def checkPaths (source target : String) : List String → Edit Unit
  | [] => pure ()
  | path :: rest => do
    MonadExcept.ofExcept (within ((← get).limits.path? (Path.rebase path source target)))
    checkPaths source target rest

/-- Carries nodes to their new paths one after the other. -/
def carryPaths (source target : String) (now : Instant) : List String → Edit Unit
  | [] => pure ()
  | path :: rest => do
    modify (carry source target now · path)
    carryPaths source target now rest

/-- Moves a node and all below it: all new paths are checked, then a file at the target is taken
out, then the nodes are carried one by one. -/
def rename (enumerate : List String → List String) (source target : String) (now : Instant) :
    Edit Unit := do
  if source = target then
    return
  let existing ← nodeAt source
  if source = "/" then
    throw (.unsupported ("cannot move '" ++ source ++ "'"))
  if Path.isBelow target source then
    throw (.unsupported
      ("cannot move '" ++ source ++ "' to a subdirectory of itself, '" ++ target ++ "'"))
  MonadExcept.ofExcept ((← get).checkParent target)
  MonadExcept.ofExcept ((← get).checkTarget existing target)
  let order := enumerate (moving (← get) source)
  checkPaths source target order
  if (← get).contains target then
    modify (·.erase target)
  carryPaths source target now order

end InPlace

end VirtualShell.Store
