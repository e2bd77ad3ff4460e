/-!
# Texts measured in bytes

Sizes and limits count the bytes of a text's UTF-8 form, while the text itself stays a sequence of
characters.  A cut at a byte budget never divides a character: `takeBytes` keeps the longest run of
whole characters that fits, and `dropBytes` leaves what follows it.  `lastBoundary` finds the place
of such a cut from behind.
-/

namespace VirtualShell.Text

/-- The number of bytes of a text. -/
def byteLength (text : List Char) : Nat := text.foldr (fun c length => c.utf8Size + length) 0

/-- The longest beginning of whole characters with at most `budget` bytes. -/
def takeBytes : Nat → List Char → List Char
  | _, [] => []
  | budget, c :: cs =>
    if c.utf8Size ≤ budget then c :: takeBytes (budget - c.utf8Size) cs else []

/-- What follows the longest beginning of whole characters with at most `budget` bytes. -/
def dropBytes : Nat → List Char → List Char
  | _, [] => []
  | budget, c :: cs =>
    if c.utf8Size ≤ budget then dropBytes (budget - c.utf8Size) cs else c :: cs

/-- The last place at or before byte `limit` where a text can be cut: a character begins there, or
the text ends. -/
def lastBoundary (text : String) : Nat → Nat
  | 0 => 0
  | limit + 1 =>
    if String.Pos.Raw.isValid text ⟨limit + 1⟩ then limit + 1 else lastBoundary text limit

/-- The bytes of a text. -/
def bytesOf (text : String) : List UInt8 := text.toUTF8.toList

theorem takeBytes_append_dropBytes (budget : Nat) (text : List Char) :
    takeBytes budget text ++ dropBytes budget text = text := by
  fun_induction takeBytes budget text with
  | case1 => simp [dropBytes]
  | case2 budget c cs h ih => simp [dropBytes, h, ih]
  | case3 budget c cs h => simp [dropBytes, h]

end VirtualShell.Text
