import VirtualShell.Text.Pieces

/-!
# Blank characters, words and control characters

A command line is a sequence of words between blanks, where *blank* is the `White_Space` property
of the Unicode character database: twenty-five characters, among them the no-break space and the
line separator, and not the zero-width space.  Core's `Char.isWhitespace` knows four of them.

* `isBlank` — the property, as ascending closed ranges.
* `trim` and `words` — a line without the blanks around it, and its words.
* `isControl` — the control characters, category `Cc`, which no log line may hold.
-/

namespace VirtualShell.Text

/-- Whether a code point lies in one of a list of closed ranges. -/
def inRanges (ranges : List (Nat × Nat)) (n : Nat) : Bool :=
  ranges.any fun r => r.1 ≤ n && n ≤ r.2

/-- The characters with the property `White_Space`, as ascending closed ranges. -/
def blankRanges : List (Nat × Nat) :=
  [(0x09, 0x0D), (0x20, 0x20), (0x85, 0x85), (0xA0, 0xA0), (0x1680, 0x1680), (0x2000, 0x200A),
   (0x2028, 0x2029), (0x202F, 0x202F), (0x205F, 0x205F), (0x3000, 0x3000)]

/-- Whether a character is blank. -/
def isBlank (c : Char) : Bool := inRanges blankRanges c.toNat

/-- Whether a character is a control character: the thirty-two below the space, and the
thirty-three from delete to U+009F. -/
def isControl (c : Char) : Bool := c.toNat < 0x20 || (0x7F ≤ c.toNat && c.toNat ≤ 0x9F)

/-- A text without the blanks at its two ends. -/
def trim (text : String) : String := trimMatches isBlank text

/-- The non-empty runs of characters that are not blank, with the current run in front. -/
def wordsOf (text : List Char) : List (List Char) :=
  let cut := text.foldr
    (fun c acc =>
      if isBlank c then
        ([], if acc.1.isEmpty then acc.2 else acc.1 :: acc.2)
      else (c :: acc.1, acc.2))
    (([] : List Char), ([] : List (List Char)))
  if cut.1.isEmpty then cut.2 else cut.1 :: cut.2

/-- The words of a line. -/
def words (text : String) : List String := (wordsOf text.toList).map String.ofList

end VirtualShell.Text
