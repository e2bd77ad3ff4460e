import VirtualShell.Url.Label

/-!
# Namings

Hosts have names of ASCII.  A name beyond it stands for one of ASCII, and which one that is, if any,
takes large tables, which say what is replaced, what is left out and what is refused, and which
change from year to year.  So a naming is given to whoever reads addresses.

`Naming.plain` does without tables of replacements: it knows the names whose capitals become small
letters and whose other characters stand for themselves.
-/

namespace VirtualShell.Url

open Text

/-- How names are written in ASCII: the form of the name that some bytes write, if it may be the
name of a host. -/
abbrev Naming := List UInt8 → Option (List Char)

/-- The label of ASCII that writes a label of small letters.  One beyond ASCII cannot begin like a
label that has been written. -/
def writeLabel? (label : List Char) : Option (List Char) :=
  if label.all (·.toNat < 0x80) then some label
  else if (after? "xn--".toList label).isSome then none
  else some ("xn--".toList ++ Punycode.encode label)

/-- The naming of names that need no replacements but of capitals. -/
def Naming.plain : Naming := fun bytes => do
  let text ← String.fromUTF8? ⟨bytes.toArray⟩
  let labels ← (pieces '.' (text.toList.flatMap lowerChar)).mapM writeLabel?
  let name := glue ['.'] labels
  if isReadable name then some name else none

end VirtualShell.Url
