import VirtualShell.Failure
import VirtualShell.Node

/-!
# The store

A store is a namespace: nodes keyed by their paths, the number that the next node will get, and the
limits that every change is checked against.  The nodes are kept in the order of their numbers, so
that a listing in order of creation is a sublist.

Each operation is a whole: it either answers a failure, and then there is no new store, or it
answers the store after the change.  All checks come before the change.

* `get?`, `children`, `descendants` — what is there.
* `create` — a new node; `upsert` — a new node, or new content for the file that is there.
* `update`, `delete`, `rename` — changes to nodes that are there.
-/

namespace VirtualShell

open Time (Instant)

/-- A namespace of nodes under limits. -/
structure Store where
  /-- The nodes, by ascending number. -/
  nodes : List Node
  /-- The number of the next node.  A counter of 64 bits stands for it, and a run makes fewer than
  2^64 nodes, so that a natural number will do. -/
  nextId : Nat
  limits : Limits
  deriving DecidableEq, Repr

namespace Store

/-! ## Looking -/

/-- The node at a path. -/
def get? (store : Store) (path : String) : Option Node :=
  store.nodes.find? fun node => node.path = path

/-- Whether a path is occupied. -/
def contains (store : Store) (path : String) : Bool := (store.get? path).isSome

/-- Whether a directory stands at a path. -/
def isDirectory (store : Store) (path : String) : Bool :=
  (store.get? path).any Node.isDirectory

/-- The nodes directly in a directory, in the order of their creation. -/
def children (store : Store) (dir : String) : List Node :=
  let dir := Path.normalize dir
  store.nodes.filter fun node => node.path ≠ dir && Path.parent? node.path = some dir

/-- All nodes strictly below a path, in the order of their paths. -/
def descendants (store : Store) (dir : String) : List Node :=
  (store.nodes.filter fun node => Path.isBelow node.path dir).mergeSort
    fun a b => decide (a.path ≤ b.path)

/-- The number of nodes. -/
def size (store : Store) : Nat := store.nodes.length

/-! ## Checks -/

/-- A failure, if there is a breach. -/
def within (breach : Option Breach) : Except Failure Unit :=
  match breach with
  | none => .ok ()
  | some breach => .error (.limitExceeded breach)

/-- The directory above a path has to be there before anything can stand at the path. -/
def checkParent (store : Store) (path : String) : Except Failure Unit :=
  match Path.parent? path with
  | none => .error (.alreadyExists path)
  | some parent =>
    match store.get? parent with
    | none => .error (.notFound path)
    | some node => if node.isDirectory then .ok () else .error (.notADirectory path)

/-- Whether a draft may become a node. -/
def checkNew (store : Store) (draft : Draft) : Except Failure Unit := do
  store.checkParent draft.path
  within (store.limits.path? draft.path)
  within (store.limits.nodeCount? store.size 1)
  within (store.limits.fileSize? draft.body.size)

/-! ## Changing -/

/-- Takes a draft in without any check. -/
def insert (store : Store) (draft : Draft) (now : Instant) : Node × Store :=
  let node : Node :=
    { id := store.nextId
      path := draft.path
      name := Path.fileName draft.path
      body := draft.body
      permissions := draft.permissions
      size := draft.body.size
      created := now
      updated := now }
  (node, { store with nodes := store.nodes ++ [node], nextId := store.nextId + 1 })

/-- Puts a node in the place of the one at its path. -/
def replace (store : Store) (node : Node) : Store :=
  { store with nodes := store.nodes.map fun old => if old.path = node.path then node else old }

/-- Creates a node at a path that is not occupied. -/
def create (store : Store) (draft : Draft) (now : Instant) : Except Failure (Node × Store) := do
  if store.contains draft.path then
    throw (.alreadyExists draft.path)
  store.checkNew draft
  return store.insert draft now

/-- Creates a node, or writes the content of a draft into the file that is there.  A directory
that is there stays as it is.  The kind of a node never changes. -/
def upsert (store : Store) (draft : Draft) (now : Instant) : Except Failure (Node × Store) := do
  match store.get? draft.path with
  | none =>
    store.checkNew draft
    return store.insert draft now
  | some old =>
    match old.body, draft.body with
    | .file _, .file content =>
      within (store.limits.fileSize? content.utf8ByteSize)
      let node := { old.write content with updated := now }
      return (node, store.replace node)
    | .directory, .directory =>
      let node := { old with updated := now }
      return (node, store.replace node)
    | .directory, .file _ => throw (.isADirectory draft.path)
    | .file _, .directory => throw (.alreadyExists draft.path)

/-- A node whose content is amended: only a file takes a new text. -/
def amended (store : Store) (node : Node) (content : Option String) : Except Failure Node :=
  match node.body, content with
  | .file _, some content => do
    within (store.limits.fileSize? content.utf8ByteSize)
    return node.write content
  | _, _ => .ok node

/-- Amends the node at a path. -/
def update (store : Store) (path : String) (amendment : Amendment) (now : Instant) :
    Except Failure (Node × Store) := do
  match store.get? path with
  | none => throw (.notFound path)
  | some old =>
    let middle ← store.amended old amendment.content
    let node :=
      { middle with
        permissions := amendment.permissions.getD old.permissions
        updated := now }
    return (node, store.replace node)

/-- Removes a node and all below it.  The root stays. -/
def delete (store : Store) (path : String) : Option Store :=
  if path = "/" || !store.contains path then none
  else
    some
      { store with
        nodes := store.nodes.filter fun node =>
          node.path ≠ path && !Path.isBelow node.path path }

/-- Whether a node moves along when the node at a path moves. -/
def movesWith (source : String) (node : Node) : Bool :=
  node.path = source || Path.isBelow node.path source

/-- A node of a moved subtree at its new path; only the moved node itself counts as changed. -/
def moved (source target : String) (now : Instant) (node : Node) : Node :=
  let path := Path.rebase node.path source target
  { node with
    path := path
    name := Path.fileName path
    updated := if node.path = source then now else node.updated }

/-- What stands in the way at the target of a move: only a file may be replaced, and only by a
file. -/
def checkTarget (store : Store) (source : Node) (target : String) : Except Failure Unit :=
  match store.get? target with
  | none => .ok ()
  | some node =>
    if node.isDirectory then .error (.isADirectory target)
    else if source.isDirectory then .error (.notADirectory target)
    else .ok ()

/-- The first breach among the new paths of a moved subtree. -/
def movedBreach? (store : Store) (source target : String) : Option Breach :=
  (store.nodes.filter (movesWith source)).findSome? fun node =>
    store.limits.path? (Path.rebase node.path source target)

/-- Moves a node and all below it to another path. -/
def rename (store : Store) (source target : String) (now : Instant) : Except Failure Store := do
  if source = target then
    return store
  match store.get? source with
  | none => throw (.notFound source)
  | some node =>
    if source = "/" then
      throw (.unsupported ("cannot move '" ++ source ++ "'"))
    if Path.isBelow target source then
      throw (.unsupported
        ("cannot move '" ++ source ++ "' to a subdirectory of itself, '" ++ target ++ "'"))
    store.checkParent target
    store.checkTarget node target
    within (store.movedBreach? source target)
    return {
      store with
      nodes := (store.nodes.filter fun node => node.path ≠ target).map fun node =>
        if movesWith source node then moved source target now node else node }

end Store

end VirtualShell
