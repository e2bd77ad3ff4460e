/-!
# Columns

Tables are laid out by padding each cell with spaces to a width that counts characters, not bytes
and not screen cells.  A cell that is wider than its column is written whole.
-/

namespace VirtualShell.Text

/-- A cell filled up with a character on its left. -/
def padLeftWith (fill : Char) (width : Nat) (cell : String) : String :=
  String.ofList (List.replicate (width - cell.length) fill) ++ cell

/-- A cell at the right end of its column. -/
def padLeft (width : Nat) (cell : String) : String := padLeftWith ' ' width cell

/-- A cell at the left end of its column. -/
def padRight (width : Nat) (cell : String) : String :=
  cell ++ String.ofList (List.replicate (width - cell.length) ' ')

/-- A number with zeros in front, up to a width. -/
def zeroPadded (width n : Nat) : String := padLeftWith '0' width (toString n)

end VirtualShell.Text
