import VirtualShell.Text.LowerCase
import VirtualShell.Text.Shown
import VirtualShell.Url.LabelTable
import VirtualShell.Url.Punycode

/-!
# Labels of names

The name of a host is a row of labels between points.  A label that begins with `xn--` stands for
one beyond ASCII, which has to be in its only form: of characters that stand for themselves, with no
mark in front, with no two characters that make one, and with joiners only where something joins.
If a label of the name holds characters that are written to the left, then each label has to keep
one direction.
-/

namespace VirtualShell.Url

open Text

/-! ## Characters -/

/-- Whether a character is a mark, which needs a letter before it. -/
def isMark (c : Char) : Bool := inRanges markRanges c.toNat

/-- Whether a mark takes no place of its own. -/
def isNonspacing (c : Char) : Bool := isMark c && isUnseen c

/-- Whether a character is one of the Cherokee capitals, which are the usual letters of their
script. -/
def isCherokeeCapital (c : Char) : Bool := 0x13A0 ≤ c.toNat && c.toNat ≤ 0x13F5

/-- Whether a character beyond ASCII stands for itself in a name. -/
def standsForItself (c : Char) : Bool :=
  (isMark c || !isUnseen c) && !inRanges replacedRanges c.toNat
    && (lowerChar c = [c] || isCherokeeCapital c)

/-- Whether a character asks its neighbours to join, or not to. -/
def isJoiner (c : Char) : Bool := c = '\u200C' || c = '\u200D'

/-! ## Neighbours -/

/-- Whether two characters make one: a letter with a mark, or two parts of a Korean syllable. -/
def makeOne (first second : Char) : Bool :=
  let isIn (low high : Nat) (c : Char) : Bool := low ≤ c.toNat && c.toNat ≤ high
  compositions.any (fun (mark, letters) => second.toNat = mark && letters.toList.contains first)
    || (isIn 0x1100 0x1112 first && isIn 0x1161 0x1175 second)
    || (isIn 0xAC00 0xD7A3 first && (first.toNat - 0xAC00) % 28 = 0 && isIn 0x11A8 0x11C2 second)

/-- Whether no two neighbours make one character. -/
def isComposed : List Char → Bool
  | first :: second :: rest => !makeOne first second && isComposed (second :: rest)
  | _ => true

/-- Whether, passing over marks, a text goes on with a character of some ranges. -/
def leadsTo (ranges : List (Nat × Nat)) (text : List Char) : Bool :=
  ((text.dropWhile isNonspacing).head?).any fun c => inRanges ranges c.toNat

/-- Whether a joiner may stand between two texts, the first in reverse: either one behind a silenced
letter, and one that keeps letters apart between two that would join. -/
def mayJoin (joiner : Char) (before rest : List Char) : Bool :=
  before.head?.any (fun c => viramas.contains c.toNat)
    || (joiner = '\u200C' && leadsTo joiningAheadRanges before && leadsTo joiningBackRanges rest)

/-- Whether all joiners of a text may stand there, given the text before it in reverse. -/
def joinersFit : List Char → List Char → Bool
  | _, [] => true
  | before, c :: rest => (!isJoiner c || mayJoin c before rest) && joinersFit (c :: before) rest

/-- Whether a text beyond ASCII is the only form of a label. -/
def isLabel (text : List Char) : Bool :=
  !text.head?.any isMark && text.all (fun c => c.toNat < 0x80 || isJoiner c || standsForItself c)
    && isComposed text && joinersFit [] text

/-! ## Directions -/

/-- Which way a character runs among others. -/
inductive Direction where
  | leftward
  | rightward
  | arabicDigit
  | europeanDigit
  | mark
  | neutral
  deriving DecidableEq, Repr

/-- Which way a character runs. -/
def directionOf (c : Char) : Direction :=
  if c.toNat < 0x80 then
    if c.isAlpha then .rightward else if c.isDigit then .europeanDigit else .neutral
  else if isNonspacing c then .mark
  else if inRanges leftwardRanges c.toNat then .leftward
  else if inRanges arabicDigitRanges c.toNat then .arabicDigit
  else if inRanges europeanDigitRanges c.toNat then .europeanDigit
  else if isJoiner c || inRanges neutralRanges c.toNat then .neutral
  else .rightward

/-- Whether a direction makes a name one that runs to the left. -/
def turnsLeft (direction : Direction) : Bool :=
  direction = .leftward || direction = .arabicDigit

/-- Whether a label keeps one direction: it begins with a letter, holds none of the other direction,
and ends with a letter or a digit, marks apart.  To the left there are digits of one kind only, and
to the right none of the Arabic ones. -/
def keepsDirection (label : List Char) : Bool :=
  let directions := label.map directionOf
  let last := (directions.reverse.dropWhile (· = .mark)).head?
  match directions.head? with
  | none => true
  | some .rightward =>
    !directions.any turnsLeft && [some .rightward, some .europeanDigit].contains last
  | some .leftward =>
    !directions.contains .rightward
      && [some .leftward, some .europeanDigit, some .arabicDigit].contains last
      && !(directions.contains .europeanDigit && directions.contains .arabicDigit)
  | some _ => false

/-! ## Names -/

/-- The label that is written by a label of ASCII in small letters, if there is one. -/
def readLabel? (label : List Char) : Option (List Char) :=
  match after? "xn--".toList label with
  | none => some label
  | some code =>
    if code.isEmpty || code.getLast? = some '-' then none
    else (Punycode.decode? code).filter isLabel

/-- Whether each label of a name of ASCII in small letters writes one, in directions that agree. -/
def isReadable (name : List Char) : Bool :=
  match (pieces '.' name).mapM readLabel? with
  | none => false
  | some labels =>
    !labels.any (fun label => label.any fun c => turnsLeft (directionOf c))
      || labels.all keepsDirection

end VirtualShell.Url
