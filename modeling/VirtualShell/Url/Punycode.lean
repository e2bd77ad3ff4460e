import VirtualShell.Text.Pieces

/-!
# Names beyond ASCII in ASCII

A text is written as its characters of ASCII, a hyphen, and numbers that say where the others
belong.  The numbers are in the base thirty-six with the least digit first; a digit below a
threshold is the last of its number, and the thresholds adapt to the numbers before.  Each number is
a walk through the text so far, round by round: every round goes on to the next character by number,
and the place where the walk stops is where that character belongs.

Reading is one pass over the digits with a `Decoder` as its state; writing is one over the
characters beyond ASCII, the least first, with an `Encoder`.
-/

namespace VirtualShell.Url.Punycode

open Text

/-- What is known before a digit: the text so far, and the number that is being read. -/
structure Decoder where
  text : List Char
  /-- The character that the walk has come to. -/
  code : Nat := 0x80
  bias : Nat := 72
  /-- Where in the text the walk began. -/
  start : Nat := 0
  /-- The place that the walk has come to, counted on over the rounds. -/
  place : Nat := 0
  weight : Nat := 1
  /-- Thirty-six for each digit of the number so far, the next included. -/
  reach : Nat := 36

/-- The value of a digit: letters come first. -/
def digit? (c : Char) : Option Nat :=
  if 'a' ≤ c && c ≤ 'z' then some (c.toNat - 'a'.toNat)
  else if '0' ≤ c && c ≤ '9' then some (c.toNat - '0'.toNat + 26)
  else none

/-- The threshold of the digit with a reach under a bias, between 1 and 26. -/
def thresholdAt (bias reach : Nat) : Nat := max 1 (min 26 (reach - bias))

/-- The threshold of the next digit. -/
def Decoder.threshold (state : Decoder) : Nat := thresholdAt state.bias state.reach

/-- Brings a number into the range of one digit, and counts the steps in thirty-sixes. -/
def narrow (n : Nat) (steps : Nat) : Nat × Nat :=
  if 455 < n then narrow (n / 35) (steps + 36) else (n, steps)
termination_by n
decreasing_by omega

/-- The bias behind a walk over a distance in a text that now has a number of characters.  The first
walk is long for no reason, so it counts little. -/
def adapt (isFirst : Bool) (distance length : Nat) : Nat :=
  let damped := distance / if isFirst then 700 else 2
  let (rest, steps) := narrow (damped + damped / length) 0
  steps + 36 * rest / (rest + 38)

/-- The decoder behind the last digit of a number: the character found stands in the text. -/
def Decoder.insert? (state : Decoder) : Option Decoder :=
  let length := state.text.length + 1
  let code := state.code + state.place / length
  let place := state.place % length
  if code.isValidChar then
    some
      { text := state.text.take place ++ Char.ofNat code :: state.text.drop place
        code := code
        bias := adapt (state.start = 0) (state.place - state.start) length
        start := place + 1
        place := place + 1 }
  else none

/-- The decoder behind one more digit.  Numbers have at most thirty-two bits. -/
def Decoder.read? (state : Decoder) (c : Char) : Option Decoder := do
  let digit ← digit? c
  let state := { state with place := state.place + digit * state.weight }
  if UInt32.size ≤ state.place then none
  else if digit < state.threshold then state.insert?
  else
    let weight := state.weight * (36 - state.threshold)
    if UInt32.size ≤ weight then none
    else return { state with weight := weight, reach := state.reach + 36 }

/-- Whether no number has been begun. -/
def Decoder.isDone (state : Decoder) : Bool := state.reach = 36

/-- The text that a text of ASCII in small letters writes.  A hyphen in front of all does not count
as one behind characters of ASCII. -/
def decode? (text : List Char) : Option (List Char) :=
  let (plain, digits) :=
    match cutAtLast? '-' text with
    | none => ([], text)
    | some ([], _) => ([], text)
    | some sides => sides
  ((digits.foldlM Decoder.read? { text := plain }).filter Decoder.isDone).map Decoder.text

/-! ## Writing -/

/-- What is known before a character is written: the digits so far, and the state in which a reader
of them is. -/
structure Encoder where
  digits : List Char := []
  /-- The number of characters that stand in the reader's text. -/
  length : Nat
  code : Nat := 0x80
  bias : Nat := 72
  start : Nat := 0

/-- The digit with a value. -/
def digitOf (value : Nat) : Char :=
  Char.ofNat (if value < 26 then 'a'.toNat + value else '0'.toNat + (value - 26))

/-- The digits of a number, from the one with a reach on. -/
def digitsOf (bias reach number : Nat) : List Char :=
  let threshold := thresholdAt bias reach
  if number < threshold then [digitOf number]
  else
    digitOf (threshold + (number - threshold) % (36 - threshold))
      :: digitsOf bias (reach + 36) ((number - threshold) / (36 - threshold))
termination_by number
decreasing_by
  have hpositive : 1 ≤ thresholdAt bias reach := Nat.le_max_left 1 _
  have hless := Nat.div_le_self (number - thresholdAt bias reach) (36 - thresholdAt bias reach)
  omega

/-- The encoder behind one more character, which belongs at a place in the reader's text. -/
def Encoder.write (state : Encoder) (code place : Nat) : Encoder :=
  let length := state.length + 1
  let distance := (code - state.code) * length + place - state.start
  { digits := state.digits ++ digitsOf state.bias 36 distance
    length := length
    code := code
    bias := adapt (state.start = 0) distance length
    start := place + 1 }

/-- The characters of a text beyond ASCII, the least first and equal ones in order, each with the
number of those before it in the text that are not greater. -/
def placesOf (text : List Char) : List (Nat × Nat) :=
  let beyond := text.zipIdx.filter fun (c, _) => 0x80 ≤ c.toNat
  (beyond.mergeSort fun (c, _) (d, _) => c.toNat ≤ d.toNat).map fun (c, place) =>
    (c.toNat, ((text.take place).filter fun d => d.toNat ≤ c.toNat).length)

/-- The text of ASCII that writes a text. -/
def encode (text : List Char) : List Char :=
  let plain := text.filter fun c => c.toNat < 0x80
  let begun : Encoder := { length := plain.length }
  plain ++ (if plain.isEmpty then [] else ['-'])
    ++ ((placesOf text).foldl (fun state (code, place) => state.write code place) begun).digits

end VirtualShell.Url.Punycode
