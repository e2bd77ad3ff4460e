import VirtualShell.Decimal.Shortest

/-!
# JSON values

The values of the data format JSON and their texts.  Whole numbers are exact up to 64 bits, all
others are doubles.  The members of an object are kept in the order of their keys, each key once.

* `Value.ofMembers` — an object of members as they were read: of two with one key the last counts.
* `Value.compact` and `Value.indented` — the text on one line, and the text with one member a line.
-/

namespace VirtualShell.Json

/-- A number of JSON. -/
inductive Number where
  | natural (n : Nat)
  /-- The number `-n`. -/
  | negative (n : Nat)
  | real (x : Float)

/-- A value of JSON. -/
inductive Value where
  | null
  | bool (value : Bool)
  | number (value : Number)
  | string (text : String)
  | array (elements : List Value)
  | object (members : List (String × Value))

/-- The text of a number. -/
def Number.text : Number → String
  | natural n => toString n
  | negative n => "-" ++ toString n
  | real x => Decimal.shortestText x

namespace Value

/-! ## Objects -/

/-- Puts a member at its place among ordered members, in the place of one with its key. -/
def insertMember (key : String) (value : Value) : List (String × Value) → List (String × Value)
  | [] => [(key, value)]
  | first :: rest =>
    if key < first.1 then (key, value) :: first :: rest
    else if key = first.1 then (key, value) :: rest
    else first :: insertMember key value rest

/-- The object with the given members. -/
def ofMembers (members : List (String × Value)) : Value :=
  .object (members.foldl (fun placed member => insertMember member.1 member.2 placed) [])

/-- The member of an object with a key; no other value has members. -/
def member? (key : String) : Value → Option Value
  | object members => (members.find? fun member => member.1 = key).map Prod.snd
  | _ => none

/-- The text of a string; no other value has one. -/
def text? : Value → Option String
  | string text => some text
  | _ => none

/-- The members of an object, in the order of their keys; no other value has members. -/
def members : Value → List (String × Value)
  | object members => members
  | _ => []

end Value

/-! ## Strings -/

/-- How a character is written between quotation marks. -/
def escapeChar (c : Char) : List Char :=
  match c with
  | '"' => ['\\', '"']
  | '\\' => ['\\', '\\']
  | '\n' => ['\\', 'n']
  | '\r' => ['\\', 'r']
  | '\t' => ['\\', 't']
  | '\x08' => ['\\', 'b']
  | '\x0c' => ['\\', 'f']
  | c =>
    if c.toNat < 0x20 then
      ['\\', 'u', '0', '0', (c.toNat / 16).digitChar, (c.toNat % 16).digitChar]
    else [c]

/-- A text between quotation marks. -/
def quote (text : String) : String :=
  "\"" ++ String.ofList (text.toList.flatMap escapeChar) ++ "\""

/-! ## Texts -/

/-- Opening and closing marks around the texts of elements, which are separated by commas. -/
def bracket (opening closing : String) (elements : List String) : String :=
  opening ++ ",".intercalate elements ++ closing

/-- The same with each element on a line of its own, indented to a depth. -/
def bracketLines (depth : Nat) (opening closing : String) (elements : List String) : String :=
  let indent (depth : Nat) : String := "\n" ++ String.ofList (List.replicate (2 * depth) ' ')
  if elements.isEmpty then opening ++ closing
  else
    opening ++ ",".intercalate (elements.map (indent (depth + 1) ++ ·)) ++ indent depth ++ closing

namespace Value

/-- The text of a value that has no parts. -/
def atomText : Value → String
  | bool true => "true"
  | bool false => "false"
  | number value => value.text
  | string text => quote text
  | _ => "null"

mutual

/-- The text of a value on one line. -/
def compact : Value → String
  | array elements => bracket "[" "]" (compactElements elements)
  | object members => bracket "\x7b" "\x7d" (compactMembers members)
  | atom => atom.atomText

/-- The texts of elements. -/
def compactElements : List Value → List String
  | [] => []
  | value :: rest => value.compact :: compactElements rest

/-- The texts of members. -/
def compactMembers : List (String × Value) → List String
  | [] => []
  | (key, value) :: rest => (quote key ++ ":" ++ value.compact) :: compactMembers rest

end

mutual

/-- The text of a value with one element or member a line, at a depth. -/
def indentedAt (depth : Nat) : Value → String
  | array elements => bracketLines depth "[" "]" (indentedElements (depth + 1) elements)
  | object members => bracketLines depth "\x7b" "\x7d" (indentedMembers (depth + 1) members)
  | atom => atom.atomText

/-- The texts of elements at a depth. -/
def indentedElements (depth : Nat) : List Value → List String
  | [] => []
  | value :: rest => indentedAt depth value :: indentedElements depth rest

/-- The texts of members at a depth. -/
def indentedMembers (depth : Nat) : List (String × Value) → List String
  | [] => []
  | (key, value) :: rest =>
    (quote key ++ ": " ++ indentedAt depth value) :: indentedMembers depth rest

end

/-- The text of a value with one element or member a line. -/
def indented (value : Value) : String := indentedAt 0 value

end Value

end VirtualShell.Json
