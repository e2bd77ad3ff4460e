import VirtualShell.Decimal

/-!
# The shortest decimal that reads back

A double stands for all reals that round to it, an interval around its exact value.  Its shortest
decimal is the point of the coarsest decimal grid that meets this interval; where two points of that
grid lie in it, the nearer one, and of two equally near ones the even one.

Everything is compared in whole numbers: the double is `m * 2 ^ q`, its neighbours lie half a unit
of the last place away, so in quarter units all of the interval is whole.
-/

namespace VirtualShell.Decimal

/-- A decimal number, `digits * 10 ^ exponent`. -/
structure Scientific where
  digits : Nat
  exponent : Int
  deriving DecidableEq, Repr

namespace Magnitude

/-- The lower and the upper end of the reals that round to a magnitude, and the magnitude itself,
in quarters of its unit.  Below a power of two the neighbours are closer. -/
def quarters (x : Magnitude) : Nat × Nat × Nat :=
  let centre := 4 * x.significand
  let below : Nat := if x.significand = hiddenBit && -1074 < x.exponent then 1 else 2
  (centre - below, centre, centre + 2)

/-- Whether the ends of the interval round to a magnitude too. -/
def includesEnds (x : Magnitude) : Bool := x.significand % 2 = 0

/-- The points of a decimal grid next to a magnitude that round to it: the better one, if any. -/
def onGrid? (x : Magnitude) (exponent : Int) : Option Nat :=
  let binary := x.exponent - 2
  let scale (quarter : Nat) : Nat :=
    quarter * Nat.pow 2 binary.toNat * Nat.pow 10 (-exponent).toNat
  let unit := Nat.pow 10 exponent.toNat * Nat.pow 2 (-binary).toNat
  let (low, centre, high) := x.quarters
  let inside (point : Nat) : Bool :=
    if x.includesEnds then scale low ≤ point * unit && point * unit ≤ scale high
    else scale low < point * unit && point * unit < scale high
  let under := scale centre / unit
  match inside under, inside (under + 1) with
  | false, false => none
  | true, false => some under
  | false, true => some (under + 1)
  | true, true => some (roundDiv (scale centre) unit)

/-- Looks for the coarsest grid that has a point for a magnitude, from a grid downward. -/
def searchGrid (x : Magnitude) : Nat → Int → Scientific
  | 0, exponent => ⟨0, exponent⟩
  | steps + 1, exponent =>
    match x.onGrid? exponent with
    | some digits => ⟨digits, exponent⟩
    | none => searchGrid x steps (exponent - 1)

/-- The shortest decimal of a magnitude that is not zero.  No double reaches the first grid, and
every double has a point on the last. -/
def shortest (x : Magnitude) : Scientific := x.searchGrid 640 309

end Magnitude

/-- An exponent, always with its sign. -/
def exponentText (exponent : Int) : List Char :=
  (if exponent < 0 then '-' else '+') :: (toString exponent.natAbs).toList

/-- Digits with a point among them, or in front of or behind them, for moderate exponents; one
digit before the point and an exponent otherwise. -/
def scientificText (x : Scientific) : String :=
  let digits := (toString x.digits).toList
  let point := (digits.length : Int) + x.exponent
  let text : List Char :=
    if 0 ≤ x.exponent && point ≤ 16 then
      digits ++ List.replicate x.exponent.toNat '0' ++ ['.', '0']
    else if 0 < point && point ≤ 16 then
      digits.take point.toNat ++ '.' :: digits.drop point.toNat
    else if -5 < point && point ≤ 0 then
      '0' :: '.' :: (List.replicate (-point).toNat '0' ++ digits)
    else
      let places := digits.drop 1
      digits.take 1 ++ (if places.isEmpty then [] else '.' :: places)
        ++ 'e' :: exponentText (point - 1)
  String.ofList text

/-- A finite double, as short as reads back. -/
def shortestText (x : Float) : String :=
  let magnitude := Magnitude.ofFloat x
  (if isNegative x then "-" else "")
    ++ (if magnitude.significand = 0 then "0.0" else scientificText magnitude.shortest)

end VirtualShell.Decimal
