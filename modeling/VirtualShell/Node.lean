import VirtualShell.Path
import VirtualShell.Time.Instant

/-!
# Nodes

A node is a file or a directory at a path.  What it holds decides its kind, so a file always has a
text and a directory never.  Its name and its size are kept beside its path and its body, and every
change of these has to keep them right.

A `Draft` is a node that no namespace has accepted yet, without number and times; an `Amendment`
is a partial change to a node that is there.
-/

namespace VirtualShell

open Time (Instant)

/-- The two kinds of node. -/
inductive NodeKind where
  | file
  | directory
  deriving DecidableEq, Repr

/-- What a node holds. -/
inductive Body where
  | file (content : String)
  | directory
  deriving DecidableEq, Repr

namespace Body

/-- The kind of node that a body makes. -/
def kind : Body → NodeKind
  | file _ => .file
  | directory => .directory

/-- The text of a file. -/
def content? : Body → Option String
  | file content => some content
  | directory => none

/-- The size that every directory reports. -/
def directorySize : Nat := 4096

/-- The number of bytes that a body reports. -/
def size : Body → Nat
  | file content => content.utf8ByteSize
  | directory => directorySize

end Body

/-! ## Permissions -/

/-- The permissions of a new directory. -/
def directoryPermissions : String := "drwxr-xr-x"

/-- The permissions of a new file. -/
def filePermissions : String := "-rw-r--r--"

/-- The permissions of a program that a compiler has made. -/
def executablePermissions : String := "-rwxr-xr-x"

/-! ## Nodes -/

/-- An entry of a namespace. -/
structure Node where
  /-- The number of the node, given in the order of creation and never given again. -/
  id : Nat
  path : String
  /-- The last segment of the path. -/
  name : String
  body : Body
  /-- Ten characters such as `-rw-r--r--`, shown and never enforced. -/
  permissions : String
  /-- The number of bytes of a file; all directories report the same. -/
  size : Nat
  created : Instant
  updated : Instant
  deriving DecidableEq, Repr

namespace Node

/-- The kind of a node. -/
def kind (node : Node) : NodeKind := node.body.kind

/-- Whether a node is a directory. -/
def isDirectory (node : Node) : Bool := node.kind = .directory

/-- Whether a node is a file. -/
def isFile (node : Node) : Bool := node.kind = .file

/-- Whether a node is left out of plain listings. -/
def isHidden (node : Node) : Bool := node.name.toList.head? = some '.'

/-- The text of a file; a directory has none. -/
def text (node : Node) : String := node.body.content?.getD ""

/-- A node with a new text. -/
def write (node : Node) (content : String) : Node :=
  { node with body := .file content, size := content.utf8ByteSize }

end Node

/-! ## Drafts and amendments -/

/-- A node about to be created. -/
structure Draft where
  path : String
  kind : NodeKind
  /-- The text of a file, empty if it is left out; directories ignore it. -/
  content : Option String
  permissions : String
  deriving DecidableEq, Repr

namespace Draft

/-- What the node of a draft holds. -/
def body (draft : Draft) : Body :=
  match draft.kind with
  | .file => .file (draft.content.getD "")
  | .directory => .directory

/-- A new directory with the usual permissions. -/
def directory (path : String) : Draft :=
  ⟨Path.normalize path, .directory, none, directoryPermissions⟩

/-- A new file with the usual permissions. -/
def file (path content : String) : Draft :=
  ⟨Path.normalize path, .file, some content, filePermissions⟩

/-- The same draft with other permissions. -/
def withPermissions (draft : Draft) (permissions : String) : Draft := { draft with permissions }

@[simp] theorem body_directory (path : String) : (directory path).body = .directory := rfl

@[simp] theorem body_file (path content : String) : (file path content).body = .file content := rfl

theorem body_of_file {draft : Draft} (h : draft.kind = .file) :
    draft.body = .file (draft.content.getD "") := by
  rw [body, h]

theorem body_of_directory {draft : Draft} (h : draft.kind = .directory) :
    draft.body = .directory := by
  rw [body, h]

@[simp] theorem body_withPermissions (draft : Draft) (permissions : String) :
    (draft.withPermissions permissions).body = draft.body := rfl

end Draft

/-- A partial change to a node; what is absent stays as it is. -/
structure Amendment where
  /-- The new text of a file; directories ignore it. -/
  content : Option String := none
  permissions : Option String := none
  deriving DecidableEq, Repr

end VirtualShell
