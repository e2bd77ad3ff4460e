import VirtualShell.Text.Bytes
import VirtualShell.Text.Pieces

/-!
# Paths

A path is a text whose segments stand between slashes.  Every node of a namespace lives at an
absolute path in *normal form*: a slash alone, or segments each behind one slash, none of them
empty, `.` or `..`.  The tree has no other structure than this: the parent of a node is read off
its path, and moving a subtree changes a beginning that all its paths share.

* `normalize` — the normal form; `..` removes the segment before it and stays put at the root.
* `resolve` — the normal form of what a user typed in a working directory.
* `parent?`, `fileName`, `join` — the last step of a path, taken off and put back.
* `isBelow` and `rebase` — the subtree under a path, and its image under another.

The functions accept any text; a text that is not in normal form is read as it stands.
-/

namespace VirtualShell.Path

open Text

/-! ## Normal form -/

/-- The home directory of the simulated user. -/
def home : String := "/home/user"

/-- One step of reading a path, with the segments kept so far in reverse. -/
def walk (kept : List (List Char)) (segment : List Char) : List (List Char) :=
  if segment = [] ∨ segment = ['.'] then kept
  else if segment = ['.', '.'] then kept.tail
  else segment :: kept

/-- The segments that remain when empty ones, `.` and `..` have been worked off. -/
def normalSegments (path : List Char) : List (List Char) :=
  ((pieces '/' path).foldl walk []).reverse

/-- The absolute path with the given segments. -/
def ofSegments (segments : List (List Char)) : List Char := '/' :: glue ['/'] segments

/-- The normal form of a path. -/
def normalize (path : String) : String := String.ofList (ofSegments (normalSegments path.toList))

/-- The absolute text that an argument stands for before normalisation.  A leading slash is
absolute; `~` alone or before a slash is the home directory; all else lies under the working
directory. -/
def absolute (cwd raw : String) : String :=
  match raw.toList with
  | '/' :: _ => raw
  | ['~'] => home
  | '~' :: '/' :: rest => home ++ "/" ++ String.ofList rest
  | _ => if cwd = "/" then "/" ++ raw else cwd ++ "/" ++ raw

/-- The path that an argument names in a working directory. -/
def resolve (cwd raw : String) : String := normalize (absolute cwd raw)

/-! ## The last segment -/

/-- The path one segment up; the root has none, nor has a text without a slash. -/
def parent? (path : String) : Option String :=
  if path = "/" then none
  else
    (cutAtLast? '/' path.toList).map fun sides =>
      if sides.1 = [] then "/" else String.ofList sides.1

/-- The last segment of a path, and a slash for the root. -/
def fileName (path : String) : String :=
  if path = "/" then "/"
  else String.ofList ((path.toList.reverse.takeWhile (· ≠ '/')).reverse)

/-- A directory and a name below it. -/
def join (dir name : String) : String :=
  if dir = "/" then "/" ++ name else dir ++ "/" ++ name

/-! ## Subtrees -/

/-- Whether a path lies strictly below another. -/
def isBelow (path ancestor : String) : Bool :=
  if ancestor = "/" then path ≠ "/"
  else
    match after? ancestor.toList path.toList with
    | some ('/' :: _) => true
    | _ => false

/-- What a path adds to an ancestor, without the slash between them. -/
def below (path ancestor : String) : String :=
  if ancestor = "/" then String.ofList (dropBytes 1 path.toList)
  else String.ofList (dropBytes (byteLength ancestor.toList + 1) path.toList)

/-- The place that a path under `source` takes when `source` becomes `target`. -/
def rebase (path source target : String) : String :=
  if path = source then target else join target (below path source)

/-- A path as it is shown in a working directory: relative if it lies below it, else whole. -/
def display (cwd path : String) : String := if isBelow path cwd then below path cwd else path

/-- A path and the directories above it, from the path up to the root. -/
def selfAndAncestors (path : String) : List String :=
  go path.length path
where
  /-- The first `n` steps up. -/
  go : Nat → String → List String
    | 0, path => [path]
    | n + 1, path =>
      match parent? path with
      | none => [path]
      | some up => path :: go n up

end VirtualShell.Path
