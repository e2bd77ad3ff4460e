import VirtualShell.Text.Blank
import VirtualShell.Text.Bytes

/-!
# What may be logged

Whatever a user typed passes through a policy before it reaches the log.  The policy takes the
user name and password out of addresses, shortens long values, and drops control characters, so
that no line of the log carries a secret or a line break that a user put there.

* `userinfo?` — the part of an address that names who connects: what stands before the last `@` of
  the authority.  Without a scheme it counts only when it holds a colon, since `user@host` is no
  secret.
* `stripCredentials` and `Policy.redact` — an address without that part, or with a marker for it.
* `Policy.truncate` — the longest beginning that fits, and the number of bytes cut off.
* `sanitize` — line breaks and tabs spelled out, all other control characters dropped.
-/

namespace VirtualShell.Log

open Text

/-! ## Credentials -/

/-- An address cut around its user information. -/
structure Userinfo where
  /-- What stands in front: the scheme, if any. -/
  before : List Char
  /-- The user information with its closing at sign. -/
  removed : List Char
  /-- What follows it: the host and the rest. -/
  after : List Char

/-- The authority of an address and what follows it: the authority ends at the first slash. -/
def authority (rest : List Char) : List Char × List Char :=
  (rest.takeWhile (· ≠ '/'), rest.dropWhile (· ≠ '/'))

/-- Cuts an address around its user information, if it has some. -/
def userinfo? (address : List Char) : Option Userinfo :=
  match cutAt? [':', '/', '/'] address with
  | some (scheme, rest) =>
    (cutAtLast? '@' (authority rest).1).map fun sides =>
      ⟨scheme ++ [':', '/', '/'], sides.1 ++ ['@'], sides.2 ++ (authority rest).2⟩
  | none =>
    match cutAtLast? '@' (authority address).1 with
    | some (user, host) =>
      if ':' ∈ user then some ⟨[], user ++ ['@'], host ++ (authority address).2⟩ else none
    | none => none

/-- An address without its user information. -/
def stripCredentials (address : String) : String :=
  match userinfo? address.toList with
  | some cut => String.ofList (cut.before ++ cut.after)
  | none => address

/-! ## Control characters -/

/-- How one character is written in the log: line breaks and tabs as a backslash and a letter,
other control characters not at all. -/
def sanitizeChar (c : Char) : List Char :=
  if c = '\n' then ['\\', 'n']
  else if c = '\r' then ['\\', 'r']
  else if c = '\t' then ['\\', 't']
  else if isControl c then []
  else [c]

/-- A text as the log may show it. -/
def sanitize (text : String) : String := String.ofList (text.toList.flatMap sanitizeChar)

/-! ## The policy -/

/-- The choices that a log policy leaves open. -/
structure Policy where
  /-- Whether user information is replaced by a marker. -/
  redacts : Bool := true
  /-- Whether the arguments of a command are logged. -/
  logsArguments : Bool := false
  /-- The bytes that a value may have before it is shortened. -/
  maxLength : Nat := 200
  deriving DecidableEq, Repr

namespace Policy

/-- A value that is too long is cut where the last character begins that does not fit, and the
number of bytes that went is noted. -/
def truncate (policy : Policy) (value : String) : String :=
  if value.utf8ByteSize ≤ policy.maxLength then value
  else
    let cut := lastBoundary value policy.maxLength
    String.ofList (takeBytes cut value.toList) ++ "...[truncated "
      ++ toString (value.utf8ByteSize - cut) ++ " bytes]"

/-- An address with a marker in place of its user information; any other text is shortened. -/
def redact (policy : Policy) (address : String) : String :=
  if policy.redacts then
    match userinfo? address.toList with
    | some cut => String.ofList cut.before ++ "[REDACTED]@" ++ String.ofList cut.after
    | none => policy.truncate address
  else policy.truncate address

/-- A command line for the log: its name and the number of its arguments, or all of it. -/
def describe (policy : Policy) (name : String) (args : List String) : String :=
  if policy.logsArguments then
    policy.truncate
      (args.foldl (fun line arg => line ++ " " ++ sanitize (policy.redact arg)) (sanitize name))
  else sanitize name ++ " [" ++ toString args.length ++ " args]"

end Policy

end VirtualShell.Log
