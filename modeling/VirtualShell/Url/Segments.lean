import VirtualShell.Text.Pieces
import VirtualShell.Url.Escape

/-!
# Paths of addresses

The path of an address is a list of segments.  A segment of one dot is left out and one of two dots
takes the segment before it away; each dot may be written as an escape.  A segment that names a
drive is never taken away.  In the address of a file a drive at the root ends its segment.
-/

namespace VirtualShell.Url

open Text

/-- Whether a segment stands for the directory it is in. -/
def isSingleDot (segment : List Char) : Bool :=
  [".", "%2e"].contains (String.ofList (segment.map Char.toLower))

/-- Whether a segment stands for the directory above. -/
def isDoubleDot (segment : List Char) : Bool :=
  ["..", ".%2e", "%2e.", "%2e%2e"].contains (String.ofList (segment.map Char.toLower))

/-- The drive that a segment begins with, a letter and a colon or a bar, and what follows it. -/
def cutDrive? (segment : List Char) : Option (Char × Char × List Char) :=
  match segment with
  | letter :: mark :: rest =>
    if letter.isAlpha && (mark = ':' || mark = '|') then some (letter, mark, rest) else none
  | _ => none

/-- Whether a segment names a drive, so that the way up ends at it. -/
def holdsDrive (segment : List Char) : Bool :=
  (cutDrive? segment).any fun (_, _, rest) => rest.isEmpty || rest.head? = some '\\'

/-- Whether a text is a drive and nothing else. -/
def isDrive (text : List Char) : Bool := (cutDrive? text).any fun (_, _, rest) => rest.isEmpty

/-- Takes the last of the segments kept so far away, in reverse order. -/
def dropSegment : List (List Char) → List (List Char)
  | [] => []
  | last :: rest => if holdsDrive last then last :: rest else rest

/-- Adds a segment that is no dot segment to those kept so far.  At the root of a file a drive is
written with a colon, and what stands behind its colon is a segment of its own. -/
def keepSegment (isFile : Bool) (segment : List Char) (kept : List (List Char)) :
    List (List Char) :=
  match isFile && kept.isEmpty, cutDrive? segment with
  | true, some (letter, _, []) => [[letter, ':']]
  | true, some (letter, ':', rest) => [escape pathSet rest, [letter, ':']]
  | _, _ => escape pathSet segment :: kept

/-- Works off segments, with those kept so far in reverse.  A dot segment at the end leaves an empty
segment, so that the path ends in a slash. -/
def keepSegments (isFile : Bool) : List (List Char) → List (List Char) → List (List Char)
  | kept, [] => kept.reverse
  | kept, segment :: rest =>
    let ending (kept : List (List Char)) : List (List Char) :=
      if rest.isEmpty then [] :: kept else kept
    if isDoubleDot segment then keepSegments isFile (ending (dropSegment kept)) rest
    else if isSingleDot segment then keepSegments isFile (ending kept) rest
    else keepSegments isFile (keepSegment isFile segment kept) rest

/-- The path that a text behind its first slash makes.  In an address of the web a backslash is a
slash too; the address of a file begins with one slash only. -/
def pathOf (isSpecial isFile : Bool) (text : List Char) : String :=
  let text := if isSpecial then text.map fun c => if c = '\\' then '/' else c else text
  let segments := keepSegments isFile [] (pieces '/' text)
  let path := glue ['/'] segments
  String.ofList ('/' :: if isFile then path.dropWhile (· = '/') else path)

end VirtualShell.Url
