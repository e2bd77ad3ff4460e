import VirtualShell.Frontend.Input
import VirtualShell.Frontend.Request
import VirtualShell.Shell.Basic

/-!
# Answering requests

Each line that is not blank is a request and gets one response, in the order of the lines.  A line
that is no request gets a response too, which says what is wrong with it, and changes nothing.  A
line that cannot be read gets none: there the answering ends.
-/

namespace VirtualShell.Frontend

open Json (Value)

/-- What a request is answered. -/
inductive Answer where
  | created (session : Nat)
  | executed (session : Nat) (report : Report)
  | closed (session : Nat) (wasLive : Bool)
  | refused (message : String)
  deriving DecidableEq, Repr

/-- An answer with the identifier of its request. -/
structure Response where
  id : Value
  answer : Answer

/-! ## Responses as JSON -/

/-- A report as a value; an error is only a member if there is one. -/
def reportValue (report : Report) : Value :=
  .object
    ([("output", .string report.output)]
      ++ (match report.error with | some error => [("error", .string error)] | none => [])
      ++ [("currentDirectory", .string report.currentDirectory), ("success", .bool report.success)])

/-- The number of a session as a value. -/
def sessionValue (session : Nat) : Value := .number (.natural session)

/-- The members of an answer, in the order in which they are written. -/
def Answer.members : Answer → List (String × Value)
  | created session => [("session", sessionValue session)]
  | executed session report => [("session", sessionValue session), ("result", reportValue report)]
  | closed session wasLive => [("session", sessionValue session), ("closed", .bool wasLive)]
  | refused message => [("error", .string message)]

/-- A response as a value. -/
def Response.toValue (response : Response) : Value :=
  .object (("id", response.id) :: response.answer.members)

/-- A response as a line. -/
def Response.text (response : Response) : String := response.toValue.compact

/-! ## Serving -/

/-- A shell that answers requests. -/
structure Service where
  shell : Shell
  draws : Draws

/-- What a request leads to. -/
structure Served where
  response : Response
  service : Service
  events : List Log.Event

namespace Service

/-- Carries out a request. -/
def serve (service : Service) (request : Request) (now : Time.Instant) : Served :=
  match request.operation with
  | .create =>
    let (session, shell, events) := service.shell.create now
    ⟨⟨request.id, .created session⟩, { service with shell := shell }, events⟩
  | .close session =>
    let (wasLive, shell, events) := service.shell.close session
    ⟨⟨request.id, .closed session wasLive⟩, { service with shell := shell }, events⟩
  | .execute session command =>
    match service.shell.execute session command now service.draws with
    | .error failure => ⟨⟨request.id, .refused failure.message⟩, service, []⟩
    | .ok done =>
      ⟨⟨request.id, .executed session done.report⟩, ⟨done.shell, done.draws⟩, done.events⟩

/-- Answers a line, unless it is blank. -/
def answerLine? (service : Service) (line : String) (now : Time.Instant) : Option Served :=
  if Text.trim line = "" then none
  else
    match Request.parse line with
    | .ok request => some (service.serve request now)
    | .error message => some ⟨⟨.null, .refused ("Parse error: " ++ message)⟩, service, []⟩

/-- Answers lines one after the other, each at the instant at which it is read, up to the first that
cannot be read: the responses, and why there are no more, if that is not the end of the input. -/
def answerLines :
    List (Time.Instant × Except ReadFault String) → Service → List Response × Option ReadFault
  | [], _ => ([], none)
  | (_, .error fault) :: _, _ => ([], some fault)
  | (now, .ok line) :: rest, service =>
    match service.answerLine? line now with
    | none => answerLines rest service
    | some served =>
      let (responses, fault) := answerLines rest served.service
      (served.response :: responses, fault)

end Service

end VirtualShell.Frontend
