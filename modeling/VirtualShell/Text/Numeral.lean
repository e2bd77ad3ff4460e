/-!
# Whole numbers in texts

A whole number is written with decimal digits, perhaps behind a plus sign, and has to fit a bound.
Nothing else is a number: no blanks, no minus sign, no separators between digits.
-/

namespace VirtualShell.Text

/-- Whether a character is a decimal digit of ASCII. -/
def isDigit (c : Char) : Bool := '0' ≤ c && c ≤ '9'

/-- The value of a digit. -/
def digitValue (c : Char) : Nat := c.toNat - '0'.toNat

/-- The number that a run of digits writes in decimal. -/
def decimalValue (digits : List Char) : Nat :=
  digits.foldl (fun n c => n * 10 + digitValue c) 0

/-- A run of digits read as a number, if it is one. -/
def digits? (digits : List Char) : Option Nat :=
  if digits.isEmpty || !digits.all isDigit then none else some (decimalValue digits)

/-- The whole number that a text writes, if it is at most `bound`. -/
def number? (bound : Nat) (text : String) : Option Nat :=
  let unsigned :=
    match text.toList with
    | '+' :: rest => rest
    | all => all
  (digits? unsigned).filter (· ≤ bound)

end VirtualShell.Text
