import VirtualShell.Url.Host
import VirtualShell.Url.Segments

/-!
# Addresses

A uniform resource locator in the sense of the URL standard, read without a base: scheme, authority,
path, query and fragment.  The schemes of the web and the scheme of files are *special*: their
addresses always have a path, take a backslash for a slash, and have hosts that are checked.

* `Url.parse?` — the address that a text writes, in its normal form.
* `Url.text` — the text of an address.
-/

namespace VirtualShell

open Text

namespace Url

/-- Who connects, to which host, at which port. -/
structure Authority where
  /-- The user name and the password with the colon between them, escaped. -/
  credentials : String
  host : Host
  /-- The port, if it is not the usual one of the scheme. -/
  port : Option Nat
  deriving DecidableEq, Repr

end Url

/-- An address. -/
structure Url where
  scheme : String
  authority : Option Url.Authority
  path : String
  query : Option String
  fragment : Option String
  deriving DecidableEq, Repr

namespace Url

/-! ## Schemes -/

/-- The special schemes, with their usual ports. -/
def specialSchemes : List (String × Option Nat) :=
  [("http", some 80), ("https", some 443), ("ws", some 80), ("wss", some 443), ("ftp", some 21),
   ("file", none)]

/-- Whether a scheme is special. -/
def isSpecial (scheme : String) : Bool := (specialSchemes.lookup scheme).isSome

/-- The usual port of a scheme. -/
def usualPort? (scheme : String) : Option Nat := (specialSchemes.lookup scheme).join

/-- Whether a character may stand in a scheme. -/
def isSchemeChar (c : Char) : Bool := c.isAlphanum || c = '+' || c = '-' || c = '.'

/-- The scheme of a text in small letters, and what follows its colon. -/
def cutScheme? (text : List Char) : Option (String × List Char) :=
  let scheme := text.takeWhile isSchemeChar
  match text.dropWhile isSchemeChar with
  | ':' :: rest =>
    if scheme.head?.any Char.isAlpha then some (String.ofList (scheme.map Char.toLower), rest)
    else none
  | _ => none

/-! ## Authorities -/

/-- Whether a character ends an authority. -/
def endsAuthority (isSpecial : Bool) (c : Char) : Bool :=
  c = '/' || c = '?' || c = '#' || (isSpecial && c = '\\')

/-- Credentials in their escaped form: a colon stands only before a password. -/
def credentialsText (userinfo : List Char) : String :=
  let user := userinfo.takeWhile (· ≠ ':')
  let password := (userinfo.dropWhile (· ≠ ':')).drop 1
  String.ofList (escape credentialSet user
    ++ if password.isEmpty then [] else ':' :: escape credentialSet password)

/-- The credentials in front of an authority and what follows them.  They end at the last at sign;
an at sign alone before the end of the authority is an error. -/
def cutCredentials? (isSpecial : Bool) (text : List Char) : Option (String × List Char) :=
  let stop := endsAuthority isSpecial
  match cutAtLast? '@' (text.takeWhile fun c => !stop c) with
  | none => some ("", text)
  | some (userinfo, host) =>
    let rest := host ++ text.dropWhile fun c => !stop c
    if userinfo.isEmpty && rest.head?.any stop then none
    else some (credentialsText userinfo, rest)

/-- The text of a host and what follows it: a colon between brackets belongs to the host. -/
def cutHost (isSpecial : Bool) : Bool → List Char → List Char × List Char
  | _, [] => ([], [])
  | inside, c :: rest =>
    if (c = ':' && !inside) || endsAuthority isSpecial c then ([], c :: rest)
    else
      let inside := if c = '[' then true else if c = ']' then false else inside
      let (host, rest) := cutHost isSpecial inside rest
      (c :: host, rest)

/-- The port in front of a text, and what follows it.  Digits up to the end of the authority make a
port of at most sixteen bits; the usual port of the scheme counts as none. -/
def cutPort? (scheme : String) (text : List Char) : Option (Option Nat × List Char) :=
  match text with
  | ':' :: rest =>
    let digits := rest.takeWhile isDigit
    let behind := rest.dropWhile isDigit
    let port := decimalValue digits
    if 65535 < port || behind.head?.any fun c => !endsAuthority true c then none
    else if digits.isEmpty || usualPort? scheme = some port then some (none, behind)
    else some (some port, behind)
  | _ => some (none, text)

/-- The authority in front of a text, and what follows it. -/
def cutAuthority? (naming : Naming) (scheme : String) (text : List Char) :
    Option (Authority × List Char) := do
  let special := isSpecial scheme
  let (credentials, rest) ← cutCredentials? special text
  let (hostText, rest) := cutHost special false rest
  let host ← if special then Host.parse? naming hostText else Host.parseOpaque? hostText
  if host = .domain "" && (credentials ≠ "" || rest.head? = some ':') then none
  else
    let (port, rest) ← cutPort? scheme rest
    return (⟨credentials, host, port⟩, rest)

/-! ## Paths, queries and fragments -/

/-- The address with what follows its path. -/
def withTail (scheme : String) (authority : Option Authority) (path : String) (tail : List Char) :
    Url :=
  let query := tail.takeWhile (· ≠ '#')
  { scheme, authority, path
    query :=
      match query with
      | '?' :: text => some (String.ofList (escape (querySet (isSpecial scheme)) text))
      | _ => none
    fragment :=
      match tail.dropWhile (· ≠ '#') with
      | '#' :: text => some (String.ofList (escape fragmentSet text))
      | _ => none }

/-- The text of a path, and what follows it. -/
def cutPath (text : List Char) : List Char × List Char :=
  let stop (c : Char) : Bool := c = '?' || c = '#'
  (text.takeWhile fun c => !stop c, text.dropWhile fun c => !stop c)

/-- A text without one slash in front. -/
def dropSlash (isSpecial : Bool) (text : List Char) : List Char :=
  match text with
  | '/' :: rest => rest
  | '\\' :: rest => if isSpecial then rest else text
  | _ => text

/-- An address that is none of a file, with the path and what follows it read from a text. -/
def withPath (scheme : String) (authority : Option Authority) (text : List Char) : Url :=
  let special := isSpecial scheme
  let (path, tail) := cutPath text
  let path :=
    if path.isEmpty && !special then "" else pathOf special false (dropSlash special path)
  withTail scheme authority path tail

/-! ## Reading -/

/-- The address of the web behind its scheme: any number of slashes may stand in front. -/
def parseWeb? (naming : Naming) (scheme : String) (text : List Char) : Option Url := do
  let (authority, rest) ←
    cutAuthority? naming scheme (text.dropWhile fun c => c = '/' || c = '\\')
  return withPath scheme (some authority) rest

/-- The host of a file; this machine is no host. -/
def fileHost? (naming : Naming) (text : List Char) : Option Host :=
  if text.isEmpty then some (.domain "")
  else
    (Host.parse? naming text).map fun host =>
      if host = .domain "localhost" then .domain "" else host

/-- The address of a file with a host and a text of its path behind the first slash. -/
def fileAddress (scheme : String) (host : Host) (text : List Char) : Url :=
  let (path, tail) := cutPath text
  withTail scheme (some ⟨"", host, none⟩) (pathOf true true path) tail

/-- The address of a file behind its scheme: a host stands between two slashes and the next, if no
drive stands there.  Without a host the slash behind its place belongs to the path. -/
def parseFile? (naming : Naming) (scheme : String) (text : List Char) : Option Url :=
  let slash (c : Char) : Bool := c = '/' || c = '\\'
  match text with
  | c :: d :: rest =>
    if slash c && slash d then
      let host := rest.takeWhile fun c => !endsAuthority true c
      let path := rest.dropWhile fun c => !endsAuthority true c
      if isDrive host then some (fileAddress scheme (.domain "") rest)
      else
        (fileHost? naming host).map fun host =>
          fileAddress scheme host (if host = .domain "" then path else dropSlash true path)
    else some (fileAddress scheme (.domain "") (dropSlash true text))
  | _ => some (fileAddress scheme (.domain "") (dropSlash true text))

/-- Any other address behind its scheme: with an authority behind two slashes, with a path behind
one, or opaque. -/
def parseOther? (naming : Naming) (scheme : String) (text : List Char) : Option Url :=
  match text with
  | '/' :: '/' :: rest => do
    let (authority, rest) ← cutAuthority? naming scheme rest
    return withPath scheme (some authority) rest
  | '/' :: _ => some (withPath scheme none text)
  | _ =>
    let (path, tail) := cutPath text
    some (withTail scheme none (String.ofList (escape opaqueSet path)) tail)

/-- The address that a text writes.  Control characters and spaces around it do not count, nor do
tabs and line breaks in it. -/
def parse? (naming : Naming) (text : String) : Option Url := do
  let trimmed := trimBoth (fun c => c.toNat ≤ 0x20) text.toList
  let (scheme, rest) ←
    cutScheme? (trimmed.filter fun c => c ≠ '\t' && c ≠ '\n' && c ≠ '\r')
  if scheme = "file" then parseFile? naming scheme rest
  else if isSpecial scheme then parseWeb? naming scheme rest
  else parseOther? naming scheme rest

/-! ## Writing -/

/-- The text of an authority. -/
def Authority.text (authority : Authority) : String :=
  (if authority.credentials = "" then "" else authority.credentials ++ "@")
    ++ authority.host.text
    ++ (match authority.port with | some port => ":" ++ toString port | none => "")

/-- The text of an address. -/
def text (url : Url) : String :=
  url.scheme ++ ":"
    ++ (match url.authority with | some authority => "//" ++ authority.text | none => "")
    ++ url.path
    ++ (match url.query with | some query => "?" ++ query | none => "")
    ++ (match url.fragment with | some fragment => "#" ++ fragment | none => "")

/-- The host of an address, if it has one that is not empty. -/
def host? (url : Url) : Option String :=
  (url.authority.map fun authority => authority.host.text).filter (· ≠ "")

/-- The port of an address: the given one, or the usual one of its scheme. -/
def port? (url : Url) : Option Nat :=
  (url.authority.bind Authority.port) <|> usualPort? url.scheme

/-- The last segment of an address's path. -/
def lastSegment (url : Url) : String :=
  String.ofList ((url.path.toList.reverse.takeWhile (· ≠ '/')).reverse)

end Url

end VirtualShell
