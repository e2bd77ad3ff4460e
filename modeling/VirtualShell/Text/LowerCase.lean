import VirtualShell.Text.Blank
import VirtualShell.Text.CaseTable

/-!
# Lower case

Lower-casing follows the Unicode default case conversion: each capital becomes its small letter, the
dotted capital I becomes two characters, and a capital sigma becomes the final form at the end of a
word.  A sigma ends a word when, passing over ignorable marks, a cased letter stands before it and
none behind it.
-/

namespace VirtualShell.Text

/-- Whether, passing over ignorable characters, a text goes on with a cased letter. -/
def leadsToCased (text : List Char) : Bool :=
  match text.dropWhile fun c => inRanges caseIgnorableRanges c.toNat with
  | [] => false
  | c :: _ => inRanges casedRanges c.toNat

/-- The small letters of one capital. -/
def lowerChar (c : Char) : List Char :=
  if c.toNat < 0x80 then [c.toLower]
  else if c = '\u0130' then ['i', '\u0307']
  else
    match capitalRuns.find? fun run => run.covers c.toNat with
    | some run => [Char.ofNat (c.toNat + run.shift).toNat]
    | none => [c]

/-- Lower-cases a text, given the characters before it in reverse. -/
def lowerFrom : List Char → List Char → List Char
  | _, [] => []
  | before, c :: rest =>
    (if c = '\u03A3' then
      if leadsToCased before && !leadsToCased rest then ['\u03C2'] else ['\u03C3']
    else lowerChar c) ++ lowerFrom (c :: before) rest

/-- A text in lower case. -/
def lowerCase (text : String) : String := String.ofList (lowerFrom [] text.toList)

end VirtualShell.Text
