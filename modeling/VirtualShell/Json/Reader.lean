import VirtualShell.Json.Value
import VirtualShell.Text.Bytes
import VirtualShell.Text.Hex
import VirtualShell.Text.Numeral

/-!
# Reading JSON

A value is read off the front of a text, and what is left of the text goes on to the next reader.
A text that is none is refused with a cause and a place: the number of bytes that were still unread,
from which the line and the column are counted in the end.

The recursion follows the nesting, which may be at most 127 deep, and inside an array or an object
the text that is left.
-/

namespace VirtualShell.Json

open Text

/-! ## Faults -/

/-- Why a text is refused. -/
inductive Cause where
  | endInList
  | endInObject
  | endInString
  | endInValue
  | expectedColon
  | expectedListEnd
  | expectedObjectEnd
  | expectedWord
  | expectedValue
  | invalidEscape
  | invalidNumber
  | numberOutOfRange
  | controlCharacter
  | keyNotString
  | loneSurrogate
  | trailingComma
  | trailingCharacters
  | unfinishedSurrogate
  | tooDeep
  /-- The text is JSON but not of the shape that was asked for. -/
  | shape (message : String)
  deriving DecidableEq, Repr

/-- The cause in words. -/
def Cause.message : Cause → String
  | endInList => "EOF while parsing a list"
  | endInObject => "EOF while parsing an object"
  | endInString => "EOF while parsing a string"
  | endInValue => "EOF while parsing a value"
  | expectedColon => "expected `:`"
  | expectedListEnd => "expected `,` or `]`"
  | expectedObjectEnd => "expected `,` or `\x7d`"
  | expectedWord => "expected ident"
  | expectedValue => "expected value"
  | invalidEscape => "invalid escape"
  | invalidNumber => "invalid number"
  | numberOutOfRange => "number out of range"
  | controlCharacter => "control character (\\u0000-\\u001F) found while parsing a string"
  | keyNotString => "key must be a string"
  | loneSurrogate => "lone leading surrogate in hex escape"
  | trailingComma => "trailing comma"
  | trailingCharacters => "trailing characters"
  | unfinishedSurrogate => "unexpected end of hex escape"
  | tooDeep => "recursion limit exceeded"
  | shape message => message

/-- A cause and its place. -/
structure Fault where
  cause : Cause
  /-- The bytes of the text that were still unread. -/
  unread : Nat
  deriving DecidableEq, Repr

namespace Fault

/-- A fault behind what has been read. -/
def here (cause : Cause) (rest : List Char) : Fault := ⟨cause, byteLength rest⟩

/-- A fault at the next byte. -/
def next (cause : Cause) (rest : List Char) : Fault := ⟨cause, byteLength rest - 1⟩

/-- What is wrong with a text, with the line and the column in bytes. -/
def message (fault : Fault) (text : String) : String :=
  let read := (bytesOf text).take (text.utf8ByteSize - fault.unread)
  let line := read.count 10 + 1
  let column := (read.reverse.takeWhile (· ≠ 10)).length
  fault.cause.message ++ " at line " ++ toString line ++ " column " ++ toString column

end Fault

/-- A text without the blanks in front of it. -/
def skipBlanks (text : List Char) : List Char :=
  text.dropWhile fun c => c = ' ' || c = '\n' || c = '\t' || c = '\r'

/-- Reads the rest of a word and answers a value for it. -/
def readWord (value : Value) : List Char → List Char → Except Fault (Value × List Char)
  | [], text => .ok (value, text)
  | _ :: _, [] => .error (.here .endInValue [])
  | w :: ws, c :: cs =>
    if c = w then readWord value ws cs else .error (.next .expectedWord (c :: cs))

/-! ## Strings -/

/-- The number that four hexadecimal digits at the front of a text write. -/
def readHex (text : List Char) : Except Fault Nat :=
  if byteLength text < 4 then .error ⟨.endInString, 0⟩
  else
    match hexNumber? (text.take 4) with
    | some n => .ok n
    | none => .error ⟨.invalidEscape, byteLength text - 4⟩

/-- Whether a number is the first half of a pair that stands for one character. -/
def isLeading (n : Nat) : Bool := 0xD800 ≤ n && n ≤ 0xDBFF

/-- Whether a number is the second half of a pair that stands for one character. -/
def isTrailing (n : Nat) : Bool := 0xDC00 ≤ n && n ≤ 0xDFFF

/-- The character behind `\u`, and the number of characters that write it. -/
def readUnicode (text : List Char) : Except Fault (Char × Nat) := do
  let n ← readHex text
  let rest := text.drop 4
  if isTrailing n then throw (.here .loneSurrogate rest)
  if !isLeading n then return (Char.ofNat n, 4)
  match rest with
  | [] => throw (.here .endInString [])
  | ['\\'] => throw (.here .endInString [])
  | '\\' :: 'u' :: rest =>
    let second ← readHex rest
    if !isTrailing second then throw (.here .loneSurrogate (rest.drop 4))
    return (Char.ofNat ((n - 0xD800) * 0x400 + (second - 0xDC00) + 0x10000), 10)
  | '\\' :: rest => throw (.next .unfinishedSurrogate rest)
  | rest => throw (.next .unfinishedSurrogate rest)

/-- The character behind a backslash, and the number of characters that write it. -/
def readEscape : List Char → Except Fault (Char × Nat)
  | [] => .error (.here .endInString [])
  | 'u' :: rest => (readUnicode rest).map fun read => (read.1, read.2 + 1)
  | c :: rest =>
    match c with
    | '"' | '\\' | '/' => .ok (c, 1)
    | 'b' => .ok ('\x08', 1)
    | 'f' => .ok ('\x0c', 1)
    | 'n' => .ok ('\n', 1)
    | 'r' => .ok ('\r', 1)
    | 't' => .ok ('\t', 1)
    | _ => .error (.next .invalidEscape (c :: rest))

/-- Reads up to a closing quotation mark; `skip` characters belong to an escape that has been
read. -/
def readChars : Nat → List Char → Except Fault (List Char × List Char)
  | _, [] => .error (.here .endInString [])
  | skip + 1, _ :: rest => readChars skip rest
  | 0, c :: rest =>
    if c = '"' then .ok ([], rest)
    else if c = '\\' then do
      let (char, used) ← readEscape rest
      let (chars, left) ← readChars used rest
      return (char :: chars, left)
    else if c.toNat < 0x20 then .error (.here .controlCharacter rest)
    else do
      let (chars, left) ← readChars 0 rest
      return (c :: chars, left)

/-- Reads a string behind its opening quotation mark. -/
def readString (text : List Char) : Except Fault (String × List Char) :=
  (readChars 0 text).map fun read => (String.ofList read.1, read.2)

/-! ## Numbers -/

/-- Takes digits into a significand as long as it fits 64 bits; also the number of digits taken. -/
def absorb : Nat → List Char → Nat × Nat
  | significand, [] => (significand, 0)
  | significand, c :: rest =>
    let more := significand * 10 + digitValue c
    if UInt64.size ≤ more then (significand, 0)
    else
      let (significand, taken) := absorb more rest
      (significand, taken + 1)

/-- A power of ten. -/
def powerOfTen (n : Nat) : Float := Float.ofScientific 1 false n

/-- Divides by a power of ten, in steps that a double can hold. -/
def divideBy (x : Float) (power : Nat) : Float :=
  if power ≤ 308 then x / powerOfTen power
  else if x == 0 then x
  else divideBy (x / powerOfTen 308) (power - 308)
termination_by power

/-- The double `significand * 10 ^ exponent`, if it is finite. -/
def realOf? (significand : Nat) (exponent : Int) : Option Float :=
  let x := significand.toUInt64.toFloat
  if exponent < 0 then some (divideBy x exponent.natAbs)
  else if exponent ≤ 308 then
    let product := x * powerOfTen exponent.toNat
    if product.isInf then none else some product
  else if x == 0 then some x
  else none

/-- A double with a sign. -/
def signed (negative : Bool) (x : Float) : Number := .real (if negative then -x else x)

/-- The double behind all of its digits. -/
def finishReal (negative : Bool) (significand : Nat) (exponent : Int) (rest : List Char) :
    Except Fault (Number × List Char) :=
  match realOf? significand exponent with
  | some x => .ok (signed negative x, rest)
  | none => .error (.here .numberOutOfRange rest)

/-- The digits of an exponent that take it beyond 31 bits: what is left behind the first of them,
if there is one. -/
def exponentOverflow? : Nat → List Char → Option (List Char)
  | exponent, c :: rest =>
    if isDigit c then
      let more := exponent * 10 + digitValue c
      if UInt32.size / 2 ≤ more then some rest else exponentOverflow? more rest
    else none
  | _, [] => none

/-- Reads an exponent behind its letter, and ends the number. -/
def readExponent (negative : Bool) (significand : Nat) (start : Int) (text : List Char) :
    Except Fault (Number × List Char) :=
  let (minus, text) : Bool × List Char :=
    match text with
    | '+' :: rest => (false, rest)
    | '-' :: rest => (true, rest)
    | _ => (false, text)
  let digits := text.takeWhile isDigit
  let rest := text.dropWhile isDigit
  if text = [] then .error (.here .endInValue [])
  else if digits = [] then .error (.next .invalidNumber text)
  else
    match exponentOverflow? 0 text with
    | some behind =>
      if significand ≠ 0 && !minus then .error (.here .numberOutOfRange behind)
      else .ok (signed negative 0, rest)
    | none =>
      let exponent : Int := decimalValue digits
      finishReal negative significand (if minus then start - exponent else start + exponent) rest

/-- Ends a number that is not whole: an exponent may follow. -/
def readTail (negative : Bool) (significand : Nat) (exponent : Int) (text : List Char) :
    Except Fault (Number × List Char) :=
  match text with
  | 'e' :: rest => readExponent negative significand exponent rest
  | 'E' :: rest => readExponent negative significand exponent rest
  | _ => finishReal negative significand exponent text

/-- Reads a fraction behind its point, and ends the number. -/
def readFraction (negative : Bool) (significand : Nat) (exponent : Int) (text : List Char) :
    Except Fault (Number × List Char) :=
  let digits := text.takeWhile isDigit
  if digits = [] then
    .error (.next (if text = [] then .endInValue else .invalidNumber) text)
  else
    let (significand, taken) := absorb significand digits
    readTail negative significand (exponent - taken) (text.dropWhile isDigit)

/-- The whole number with a significand. -/
def wholeOf (negative : Bool) (significand : Nat) : Number :=
  if !negative then .natural significand
  else if 0 < significand && significand ≤ UInt64.size / 2 then .negative significand
  else .real (-significand.toUInt64.toFloat)

/-- Reads a number behind its sign. -/
def readNumber (negative : Bool) (text : List Char) : Except Fault (Number × List Char) :=
  let digits := text.takeWhile isDigit
  let rest := text.dropWhile isDigit
  match digits with
  | [] => .error (.next (if text = [] then .endInValue else .invalidNumber) text)
  | '0' :: _ :: _ => .error (.next .invalidNumber (text.drop 1))
  | _ =>
    let (significand, taken) := absorb 0 digits
    let dropped := digits.length - taken
    match rest with
    | '.' :: rest => readFraction negative significand dropped rest
    | _ =>
      if 0 < dropped || rest.head? = some 'e' || rest.head? = some 'E' then
        readTail negative significand dropped rest
      else .ok (wholeOf negative significand, rest)

/-! ## Arrays and objects -/

/-- Goes on to the next element of an array: what is left before it, or behind the end. -/
def nextElement (first : Bool) (text : List Char) : Except Fault (Bool × List Char) :=
  match skipBlanks text with
  | [] => .error (.next .endInList [])
  | ']' :: rest => .ok (false, rest)
  | c :: rest =>
    if first then .ok (true, c :: rest)
    else if c = ',' then
      match skipBlanks rest with
      | [] => .error (.next .endInValue [])
      | ']' :: rest => .error (.next .trailingComma (']' :: rest))
      | rest => .ok (true, rest)
    else .error (.next .expectedListEnd (c :: rest))

/-- Goes on to the next key of an object: what is left behind its quotation mark, or at the end of
the object. -/
def nextKey (first : Bool) (text : List Char) : Except Fault (Bool × List Char) :=
  match skipBlanks text with
  | [] => .error (.next .endInObject [])
  | '\x7d' :: rest => .ok (false, '\x7d' :: rest)
  | c :: rest =>
    if first then
      if c = '"' then .ok (true, rest) else .error (.next .keyNotString (c :: rest))
    else if c = ',' then
      match skipBlanks rest with
      | [] => .error (.next .endInValue [])
      | '"' :: rest => .ok (true, rest)
      | '\x7d' :: rest => .error (.next .trailingComma ('\x7d' :: rest))
      | rest => .error (.next .keyNotString rest)
    else .error (.next .expectedObjectEnd (c :: rest))

/-- Reads the colon behind a key. -/
def readColon (text : List Char) : Except Fault (List Char) :=
  match skipBlanks text with
  | [] => .error (.next .endInObject [])
  | ':' :: rest => .ok rest
  | rest => .error (.next .expectedColon rest)

/-- Reads the elements of an array by a reader for one of them.  Each takes at least one character,
so the number of characters bounds the elements. -/
def readElements (readOne : List Char → Except Fault (Value × List Char)) :
    Nat → Bool → List Char → Except Fault (List Value × List Char)
  | 0, _, text => .error (.next .endInList text)
  | bound + 1, first, text => do
    match ← nextElement first text with
    | (false, rest) => return ([], rest)
    | (true, rest) =>
      let (value, rest) ← readOne rest
      let (values, rest) ← readElements readOne bound false rest
      return (value :: values, rest)

/-- Reads the members of an object up to its closing brace by a reader for one value. -/
def readMembers (readOne : List Char → Except Fault (Value × List Char)) :
    Nat → Bool → List Char → Except Fault (List (String × Value) × List Char)
  | 0, _, text => .error (.next .endInObject text)
  | bound + 1, first, text => do
    match ← nextKey first text with
    | (false, rest) => return ([], rest)
    | (true, rest) =>
      let (key, rest) ← readString rest
      let (value, rest) ← readOne (← readColon rest)
      let (members, rest) ← readMembers readOne bound false rest
      return ((key, value) :: members, rest)

/-! ## Values -/

/-- How deep arrays and objects may be nested. -/
def maxDepth : Nat := 127

/-- Reads a value with at most so many arrays and objects one inside the other. -/
def readValue (depth : Nat) (text : List Char) : Except Fault (Value × List Char) :=
  match skipBlanks text with
  | [] => .error (.next .endInValue [])
  | 'n' :: rest => readWord .null "ull".toList rest
  | 't' :: rest => readWord (.bool true) "rue".toList rest
  | 'f' :: rest => readWord (.bool false) "alse".toList rest
  | '-' :: rest => (readNumber true rest).map fun read => (.number read.1, read.2)
  | '"' :: rest => (readString rest).map fun read => (.string read.1, read.2)
  | '[' :: rest =>
    match depth with
    | 0 => .error (.next .tooDeep ('[' :: rest))
    | depth + 1 =>
      (readElements (readValue depth) (rest.length + 1) true rest).map fun read =>
        (.array read.1, read.2)
  | '\x7b' :: rest =>
    match depth with
    | 0 => .error (.next .tooDeep ('\x7b' :: rest))
    | depth + 1 =>
      (readMembers (readValue depth) (rest.length + 1) true rest).map fun read =>
        (.ofMembers read.1, read.2.drop 1)
  | c :: rest =>
    if isDigit c then (readNumber false (c :: rest)).map fun read => (.number read.1, read.2)
    else .error (.next .expectedValue (c :: rest))

/-- Makes sure that nothing is left. -/
def expectEnd (text : List Char) : Except Fault Unit :=
  match skipBlanks text with
  | [] => .ok ()
  | rest => .error (.next .trailingCharacters rest)

/-- Reads a text that is one value. -/
def parse (text : String) : Except Fault Value := do
  let (value, rest) ← readValue maxDepth text.toList
  expectEnd rest
  return value

end VirtualShell.Json
