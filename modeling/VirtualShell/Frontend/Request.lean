import VirtualShell.Json.Reader
import VirtualShell.Limits
import VirtualShell.Text.Shown

/-!
# Requests

A request is a line of JSON: an object with an operation under `op`, what the operation needs, and
perhaps an identifier under `id`, which may be any value.  Other members are ignored, but no member
that counts may stand there twice.

The members are read in order, and the first thing that is wrong is what a refused request is told,
with its place in the line.
-/

namespace VirtualShell.Frontend

open Json (Value Fault)

/-- What a request asks for. -/
inductive Operation where
  | create
  | execute (session : Nat) (command : String)
  | close (session : Nat)
  deriving DecidableEq, Repr

/-- A request with its identifier; a request without one has the null value. -/
structure Request where
  id : Value
  operation : Operation

/-! ## Values of the wrong kind -/

/-- What a value is, in words. -/
def valueKind : Value → String
  | .null => "null"
  | .bool true => "boolean `true`"
  | .bool false => "boolean `false`"
  | .number (.real x) => "floating point `" ++ Decimal.shortestText x ++ "`"
  | .number whole => "integer `" ++ whole.text ++ "`"
  | .string text => "string " ++ Text.shown text
  | .array _ => "sequence"
  | .object _ => "map"

/-- The complaint about a value that is not of the kind that was expected. -/
def wrongKind (value : Value) (expected : String) : String :=
  "invalid type: " ++ valueKind value ++ ", expected " ++ expected

/-- The complaint about a number that is not in the range that was expected. -/
def outOfRange (value : Value) (expected : String) : String :=
  "invalid value: " ++ valueKind value ++ ", expected " ++ expected

/-- The complaint about a member that stands there twice. -/
def duplicateMember (key : String) : String := "duplicate field `" ++ key ++ "`"

/-- The complaint about a member that is not there. -/
def missingMember (key : String) : String := "missing field `" ++ key ++ "`"

/-! ## Operations -/

/-- The operations by name. -/
inductive OperationName where
  | create
  | execute
  | close
  deriving DecidableEq, Repr

/-- The operation that a value names: by its name, or by its number. -/
def readOperationName : Value → Except String OperationName
  | .string "create" => .ok .create
  | .string "execute" => .ok .execute
  | .string "close" => .ok .close
  | .string other =>
    .error ("unknown variant `" ++ other ++ "`, expected one of `create`, `execute`, `close`")
  | .number (.natural 0) => .ok .create
  | .number (.natural 1) => .ok .execute
  | .number (.natural 2) => .ok .close
  | .number (.natural n) =>
    .error (outOfRange (.number (.natural n)) "variant index 0 <= i < 3")
  | value => .error (wrongKind value "variant identifier")

/-- The number of a session that a value gives. -/
def readSession : Value → Except String Nat
  | .number (.natural n) => .ok n
  | .number (.negative n) => .error (outOfRange (.number (.negative n)) "u64")
  | value => .error (wrongKind value "u64")

/-- The command line that a value gives. -/
def readCommand : Value → Except String String
  | .string text => .ok text
  | value => .error (wrongKind value "a string")

/-- Reads a member that may stand among others once. -/
def readOnce {α : Type} (key : String) (read : Value → Except String α) (found : Option α)
    (value : Value) : Except String (Option α) :=
  if found.isSome then .error (duplicateMember key) else (read value).map some

/-- Reads the name of the operation from members. -/
def findOperationName (found : Option OperationName) :
    List (String × Value) → Except String OperationName
  | [] =>
    match found with
    | some name => .ok name
    | none => .error (missingMember "op")
  | (key, value) :: rest => do
    let found ← if key = "op" then readOnce "op" readOperationName found value else pure found
    findOperationName found rest

/-- Reads a session and a command line from members. -/
def findExecute (session : Option Nat) (command : Option String) :
    List (String × Value) → Except String Operation
  | [] =>
    match session, command with
    | none, _ => .error (missingMember "session")
    | some _, none => .error (missingMember "command")
    | some session, some command => .ok (.execute session command)
  | (key, value) :: rest => do
    if key = "session" then
      findExecute (← readOnce "session" readSession session value) command rest
    else if key = "command" then
      findExecute session (← readOnce "command" readCommand command value) rest
    else findExecute session command rest

/-- Reads a session from members. -/
def findClose (session : Option Nat) : List (String × Value) → Except String Operation
  | [] =>
    match session with
    | none => .error (missingMember "session")
    | some session => .ok (.close session)
  | (key, value) :: rest => do
    if key = "session" then
      findClose (← readOnce "session" readSession session value) rest
    else findClose session rest

/-- Reads an operation from members. -/
def Operation.ofMembers (members : List (String × Value)) : Except String Operation := do
  match ← findOperationName none members with
  | .create => return .create
  | .execute => findExecute none none members
  | .close => findClose none members

/-! ## Requests -/

/-- The identifier and the other members of a request, in order. -/
structure RequestMembers where
  id : Option Value := none
  others : List (String × Value) := []

/-- A fault of shape. -/
def shapeFault (message : String) (rest : List Char) : Fault := .here (.shape message) rest

/-- The text from which a second identifier is refused: behind its key, and behind the brace that
closes the request if this stands next. -/
def behindSecondId (text : List Char) : List Char :=
  match Json.skipBlanks text with
  | '\x7d' :: rest => rest
  | rest => rest

/-- Reads the members of a request up to its closing brace; the number of characters bounds
them. -/
def readRequestMembers : Nat → Bool → Option Value → List Char →
    Except Fault (RequestMembers × List Char)
  | 0, _, _, text => .error (.next .endInObject text)
  | bound + 1, first, id, text => do
    match ← Json.nextKey first text with
    | (false, rest) => return (⟨id, []⟩, rest)
    | (true, rest) =>
      let (key, rest) ← Json.readString rest
      if key = "id" && id.isSome then
        throw (shapeFault (duplicateMember "id") (behindSecondId rest))
      let (value, rest) ← Json.readValue (Json.maxDepth - 1) (← Json.readColon rest)
      if key = "id" then
        readRequestMembers bound false (some value) rest
      else
        let (members, rest) ← readRequestMembers bound false id rest
        return ({ members with others := (key, value) :: members.others }, rest)

/-- Reads a request behind its opening brace. -/
def readRequestObject (text : List Char) : Except Fault Request := do
  let (members, rest) ← readRequestMembers (text.length + 1) true none text
  let rest := rest.drop 1
  match Operation.ofMembers members.others with
  | .error message => throw (shapeFault message rest)
  | .ok operation =>
    Json.expectEnd rest
    return ⟨members.id.getD .null, operation⟩

/-- Reads a request. -/
def readRequest (text : List Char) : Except Fault Request :=
  match Json.skipBlanks text with
  | '\x7b' :: rest => readRequestObject rest
  | '[' :: rest => .error (shapeFault (wrongKind (.array []) "struct Request") ('[' :: rest))
  | other => do
    let (value, rest) ← Json.readValue Json.maxDepth other
    throw (shapeFault (wrongKind value "struct Request") rest)

/-- The request that a line makes, or what is wrong with it. -/
def Request.parse (line : String) : Except String Request :=
  (readRequest line.toList).mapError fun fault => fault.message line

end VirtualShell.Frontend
