import VirtualShell.Text.Bytes
import VirtualShell.Text.Hex

/-!
# Percent escapes

A character that may not stand in a part of an address is written as its bytes, each as a percent
sign and two hexadecimal digits.  Which characters that are differs from part to part; those beyond
ASCII never may, and the control characters neither.
-/

namespace VirtualShell.Url

open Text

/-- Whether a character is a control character of ASCII. -/
def isAsciiControl (c : Char) : Bool := c.toNat < 0x20 || c.toNat = 0x7F

/-- What is escaped in an opaque part. -/
def opaqueSet (c : Char) : Bool := isAsciiControl c

/-- What is escaped in a fragment. -/
def fragmentSet (c : Char) : Bool := isAsciiControl c || " \"<>`".toList.contains c

/-- What is escaped in a path. -/
def pathSet (c : Char) : Bool := fragmentSet c || "#?\x7b\x7d".toList.contains c

/-- What is escaped in a user name or a password. -/
def credentialSet (c : Char) : Bool := pathSet c || "/:;=@[\\]^|".toList.contains c

/-- What is escaped in a query; in the addresses of the web also the apostrophe. -/
def querySet (isSpecial : Bool) (c : Char) : Bool :=
  isAsciiControl c || " \"#<>".toList.contains c || (isSpecial && c = '\'')

/-- A character as escapes of its bytes. -/
def escapeBytes (c : Char) : List Char :=
  (String.utf8EncodeChar c).flatMap fun byte => '%' :: upperHexByte byte

/-- A text in which the characters of a set, and those beyond ASCII, are escaped. -/
def escape (set : Char → Bool) (text : List Char) : List Char :=
  text.flatMap fun c => if set c || 0x80 ≤ c.toNat then escapeBytes c else [c]

/-- The byte that two hexadecimal digits in front of a text write. -/
def escapedByte? : List UInt8 → Option UInt8
  | high :: low :: _ =>
    (hexNumber? [Char.ofNat high.toNat, Char.ofNat low.toNat]).map Nat.toUInt8
  | _ => none

/-- Resolves escapes; `skip` bytes belong to an escape that has been resolved. -/
def unescapeFrom : Nat → List UInt8 → List UInt8
  | _, [] => []
  | skip + 1, _ :: rest => unescapeFrom skip rest
  | 0, byte :: rest =>
    if byte = 0x25 then
      match escapedByte? rest with
      | some escaped => escaped :: unescapeFrom 2 rest
      | none => byte :: unescapeFrom 0 rest
    else byte :: unescapeFrom 0 rest

/-- The bytes that a text stands for: each escape is the byte it writes, and a percent sign that
begins none is itself. -/
def unescape (bytes : List UInt8) : List UInt8 := unescapeFrom 0 bytes

end VirtualShell.Url
