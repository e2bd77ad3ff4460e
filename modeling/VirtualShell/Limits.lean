import VirtualShell.Path

/-!
# Limits

A namespace may not grow without bound: its limits cap the number of nodes, the bytes of a single
file, the bytes of a path and the bytes of each segment.  A check either passes or says which limit
was breached, with the figure that breached it.
-/

namespace VirtualShell

/-- The largest count or size that a limit can state. -/
def unbounded : Nat := UInt64.size - 1

/-- The limits that a namespace keeps to. -/
structure Limits where
  /-- The number of nodes, the root and the seed included. -/
  nodeCount : Nat := 10000
  /-- The bytes of one file. -/
  fileSize : Nat := 1000000
  /-- The bytes of a whole path. -/
  pathLength : Nat := 4096
  /-- The bytes of one segment. -/
  nameLength : Nat := 255
  deriving DecidableEq, Repr

/-- A limit that was exceeded, with the figure that exceeded it. -/
inductive Breach where
  | nodeCount (current limit : Nat)
  | fileSize (size limit : Nat)
  | pathTooLong (length limit : Nat)
  | nameTooLong (length limit : Nat)
  deriving DecidableEq, Repr

/-- What a shell prints behind the operand. -/
def Breach.message : Breach → String
  | .nodeCount .. | .fileSize .. => "No space left on device"
  | .pathTooLong .. | .nameTooLong .. => "File name too long"

namespace Limits

/-- Limits that nothing exceeds. -/
def unlimited : Limits := ⟨unbounded, unbounded, unbounded, unbounded⟩

/-- The first breach of a path: its own length, then its segments in order. -/
def path? (limits : Limits) (path : String) : Option Breach :=
  if limits.pathLength < path.utf8ByteSize then
    some (.pathTooLong path.utf8ByteSize limits.pathLength)
  else
    ((Text.pieces '/' path.toList).find? fun name =>
        limits.nameLength < Text.byteLength name).map
      fun name => .nameTooLong (Text.byteLength name) limits.nameLength

/-- The breach of `additional` new nodes beside `current` ones.  The sum stops at the largest
count. -/
def nodeCount? (limits : Limits) (current additional : Nat) : Option Breach :=
  if limits.nodeCount < min (current + additional) unbounded then
    some (.nodeCount current limits.nodeCount)
  else
    none

/-- The breach of a file of a given size. -/
def fileSize? (limits : Limits) (size : Nat) : Option Breach :=
  if limits.fileSize < size then some (.fileSize size limits.fileSize) else none

end Limits

end VirtualShell
