import VirtualShell.Text.Numeral
import VirtualShell.Text.Pieces
import VirtualShell.Url.Escape
import VirtualShell.Url.Naming

/-!
# Hosts

The host of an address is a name, or a number of the internet protocol in one of its two versions.
A name that ends in a number has to be a number of version four, in any of its notations; what
stands between brackets has to be one of version six.  Numbers are written in one form only.  Names beyond
ASCII are read by a naming, which is given from outside.
-/

namespace VirtualShell.Url

open Text

/-- A host. -/
inductive Host where
  /-- A name; the empty name is the host of an address without one. -/
  | domain (name : String)
  | version4 (address : Nat)
  /-- Eight groups of sixteen bits. -/
  | version6 (groups : List Nat)
  deriving DecidableEq, Repr

/-! ## Version four -/

/-- A number of a part of an address: decimal, octal behind a zero, hexadecimal behind `0x`. -/
def ipv4Number? (part : List Char) : Option Nat :=
  match part with
  | [] => none
  | '0' :: 'x' :: digits => hexNumber? digits
  | '0' :: 'X' :: digits => hexNumber? digits
  | '0' :: d :: digits =>
    if (d :: digits).all fun c => '0' ≤ c && c ≤ '7' then
      some ((d :: digits).foldl (fun n c => n * 8 + digitValue c) 0)
    else none
  | digits => digits? digits

/-- The parts of a name between its points, without an empty one at the end. -/
def dottedParts (name : List Char) : List (List Char) :=
  let parts := pieces '.' name
  if parts.getLast? = some [] then parts.dropLast else parts

/-- Whether a name ends in a number, and so has to be a number of version four. -/
def endsInNumber (name : List Char) : Bool :=
  match (dottedParts name).getLast? with
  | none => false
  | some last => (!last.isEmpty && last.all isDigit) || (ipv4Number? last).isSome

/-- The address of version four that a name writes: up to four numbers, of which the last fills all
places that are left. -/
def ipv4? (name : List Char) : Option Nat := do
  let numbers ← (dottedParts name).mapM ipv4Number?
  let last ← numbers.getLast?
  let leading := numbers.dropLast
  let room := Nat.pow 256 (4 - leading.length)
  if 3 < leading.length || room ≤ last || leading.any (255 < ·) then none
  else
    some (leading.zipIdx.foldr (fun part rest => part.1 * Nat.pow 256 (3 - part.2) + rest) last)

/-- An address of version four as four decimal numbers. -/
def ipv4Text (address : Nat) : String :=
  ".".intercalate ([3, 2, 1, 0].map fun place => toString (address / Nat.pow 256 place % 256))

/-! ## Version six -/

/-- A group of one to four hexadecimal digits. -/
def ipv6Group? (digits : List Char) : Option Nat :=
  if digits.isEmpty || 4 < digits.length then none else hexNumber? digits

/-- A number up to 255 without zeros in front. -/
def octet? (digits : List Char) : Option Nat :=
  if 1 < digits.length && digits.head? = some '0' then none
  else (digits? digits).filter (· ≤ 255)

/-- The two groups that four decimal numbers make. -/
def dottedGroups? (text : List Char) : Option (List Nat) := do
  match ← (pieces '.' text).mapM octet? with
  | [a, b, c, d] => some [a * 256 + b, c * 256 + d]
  | _ => none

/-- The groups between colons; the last may be written as four decimal numbers. -/
def ipv6Groups? (mayBeDotted : Bool) : List (List Char) → Option (List Nat)
  | [] => some []
  | [last] =>
    if mayBeDotted && last.contains '.' then dottedGroups? last
    else (ipv6Group? last).map ([·])
  | group :: rest => do
    let value ← ipv6Group? group
    let more ← ipv6Groups? mayBeDotted rest
    return value :: more

/-- The groups that a text writes, none if it is empty. -/
def ipv6Side? (mayBeDotted : Bool) (side : List Char) : Option (List Nat) :=
  if side.isEmpty then some [] else ipv6Groups? mayBeDotted (pieces ':' side)

/-- The eight groups that a text writes; two colons stand for at least one group of zeros. -/
def ipv6? (text : List Char) : Option (List Nat) :=
  match cutAt? [':', ':'] text with
  | none => (ipv6Side? true text).filter fun groups => groups.length = 8
  | some (left, right) => do
    let left ← ipv6Side? false left
    let right ← ipv6Side? true right
    let missing := 8 - (left.length + right.length)
    if missing = 0 then none else some (left ++ List.replicate missing 0 ++ right)

/-- The place and the length of the longest run of zeros, the first of equally long ones. -/
def longestZeros (groups : List Nat) : Nat × Nat :=
  (List.range groups.length).foldl
    (fun best start =>
      let length := ((groups.drop start).takeWhile (· = 0)).length
      if best.2 < length then (start, length) else best)
    (0, 0)

/-- An address of version six: two colons stand for the longest run of at least two zeros. -/
def ipv6Text (groups : List Nat) : String :=
  let text (groups : List Nat) : String := ":".intercalate (groups.map hexText)
  let (start, length) := longestZeros groups
  if length < 2 then text groups
  else text (groups.take start) ++ "::" ++ text (groups.drop (start + length))

/-! ## Reading and writing -/

namespace Host

/-- A host as it is written in an address. -/
def text : Host → String
  | domain name => name
  | version4 address => ipv4Text address
  | version6 groups => "[" ++ ipv6Text groups ++ "]"

/-- The host between brackets, if a text begins with one. -/
def bracketed? (text : List Char) : Option Host :=
  if text.getLast? = some ']' then (ipv6? text.dropLast).map .version6 else none

/-- Whether a character may not stand in the ASCII form of a name. -/
def isForbidden (c : Char) : Bool :=
  c.toNat ≤ 0x20 || 0x7F ≤ c.toNat || "%#/:<>?@[\\]^|".toList.contains c

/-- The ASCII form of the name that bytes write: in small letters, or as a naming has it. -/
def asciiName? (naming : Naming) (bytes : List UInt8) : Option (List Char) :=
  if bytes.all (· < 0x80) then
    let name := bytes.map fun byte => (Char.ofNat byte.toNat).toLower
    if isReadable name then some name else none
  else naming bytes

/-- The host of an address of the web: escapes are resolved before the name is read. -/
def parse? (naming : Naming) (text : List Char) : Option Host :=
  match text with
  | '[' :: rest => bracketed? rest
  | _ => do
    let name ← asciiName? naming (unescape (bytesOf (String.ofList text)))
    if name.isEmpty || name.any isForbidden then none
    else if endsInNumber name then (ipv4? name).map .version4
    else return .domain (String.ofList name)

/-- Whether a character may not stand in the name of any other address. -/
def isForbiddenOpaque (c : Char) : Bool :=
  c = '\x00' || "\t\n\r #/:<>?@[\\]^|".toList.contains c

/-- The host of any other address, whose name is taken as it is. -/
def parseOpaque? (text : List Char) : Option Host :=
  match text with
  | '[' :: rest => bracketed? rest
  | _ =>
    if text.any isForbiddenOpaque then none
    else some (.domain (String.ofList (escape opaqueSet text)))

end Host

end VirtualShell.Url
