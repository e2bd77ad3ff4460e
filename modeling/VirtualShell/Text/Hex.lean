import VirtualShell.Text.Columns

/-!
# Hexadecimal digits

Escapes in addresses and data formats, and the names of objects, are written in the base sixteen.
Reading takes digits of either case; writing has both, since some formats ask for capitals.
-/

namespace VirtualShell.Text

/-- The value of a hexadecimal digit. -/
def hexDigit? (c : Char) : Option Nat :=
  if '0' ≤ c && c ≤ '9' then some (c.toNat - '0'.toNat)
  else if 'a' ≤ c && c ≤ 'f' then some (c.toNat - 'a'.toNat + 10)
  else if 'A' ≤ c && c ≤ 'F' then some (c.toNat - 'A'.toNat + 10)
  else none

/-- The number that digits write in the base sixteen, if all of them are digits. -/
def hexNumber? (digits : List Char) : Option Nat :=
  (digits.mapM hexDigit?).map fun values => values.foldl (fun n d => n * 16 + d) 0

/-- A number in the base sixteen with small letters. -/
def hexText (n : Nat) : String := String.ofList (Nat.toDigits 16 n)

/-- A byte as two digits with small letters. -/
def lowerHexByte (byte : UInt8) : String := padLeftWith '0' 2 (hexText byte.toNat)

/-- A byte as two digits with capitals. -/
def upperHexByte (byte : UInt8) : List Char := (lowerHexByte byte).toList.map Char.toUpper

end VirtualShell.Text
