import VirtualShell.Text.Columns

/-!
# Decimals with a fixed number of places

Figures are computed in binary floating point and shown with one or two places.  What is rounded is
the exact value of the binary number, and a value that lies halfway between two decimals goes to the
one whose last digit is even.  The rounding is done on natural numbers: a finite double is
`m * 2 ^ q`, so its decimal text is the rounded quotient of two naturals.
-/

namespace VirtualShell.Decimal

/-- `num / den` rounded to a whole number, a half going to the even neighbour. -/
def roundDiv (num den : Nat) : Nat :=
  let quotient := num / den
  match compare (2 * (num % den)) den with
  | .lt => quotient
  | .gt => quotient + 1
  | .eq => if quotient % 2 = 0 then quotient else quotient + 1

/-- The magnitude of a finite double, as `significand * 2 ^ exponent`. -/
structure Magnitude where
  significand : Nat
  exponent : Int

/-- The leading bit of a significand, which the bits of a double leave out. -/
def hiddenBit : Nat := Nat.pow 2 52

/-- The magnitude that a double's bits stand for. -/
def Magnitude.ofFloat (x : Float) : Magnitude :=
  let bits := x.toBits.toNat
  let biased : Nat := bits / hiddenBit % 2048
  let fraction : Nat := bits % hiddenBit
  if biased = 0 then ⟨fraction, -1074⟩ else ⟨hiddenBit + fraction, (biased : Int) - 1075⟩

/-- Whether a double carries a minus sign. -/
def isNegative (x : Float) : Bool := x.toBits.toNat / Nat.pow 2 63 = 1

/-- A magnitude in units of the last of `places` decimal places. -/
def Magnitude.scaled (x : Magnitude) (places : Nat) : Nat :=
  roundDiv (x.significand * Nat.pow 10 places * Nat.pow 2 x.exponent.toNat)
    (Nat.pow 2 (-x.exponent).toNat)

/-- A number of units of the last place, with its decimal point. -/
def pointed (places units : Nat) : String :=
  if places = 0 then toString units
  else
    let unit := Nat.pow 10 places
    toString (units / unit) ++ "." ++ Text.zeroPadded places (units % unit)

/-- A finite double with a fixed number of places. -/
def fixed (places : Nat) (x : Float) : String :=
  (if isNegative x then "-" else "") ++ pointed places ((Magnitude.ofFloat x).scaled places)

end VirtualShell.Decimal
