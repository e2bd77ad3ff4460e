import VirtualShell.Frontend.Service
import VirtualShell.Proofs.Json.Compact
import VirtualShell.Proofs.Shell.Sessions
import VirtualShell.Proofs.Text.Pieces
import VirtualShell.Shell.Builtins

/-!
# Requests and their answers

`Answered` says what one line may be answered, as the members of an object in the order in which
they are written, and what the service is like from then on.  `Serves` is a run of a service: lines
and their answers, each from the state that the one before has left.  `Heard` says which lines of an
input there are to answer: all of them, or those before the first that cannot be read.

The loop over an input is such a run over the lines that are heard and are not blank, and what it
writes is read back as one line for each of them (`answers_every_line`).  That rests on two things.
Answers are never broken, for no text in them is written with a line feed (`Exchange.unbroken`).
And a request is a step of the shell (`serve_shell`), so that the account of its sessions is kept,
and the number of a new session is new.

An identifier is answered as the value that it is read as, which need not be the number that was
written (`unread_line_ends_answers`).
-/

namespace VirtualShell.Frontend

open Json (Value)

open Shell (Ledger)

open Time (Instant)

variable {now : Instant} {service : Service} {line : String} {told : List Shell.Answer}

/-! ## One line -/

/-- A line that has been answered, with the instant at which it was read and the members of its
answer. -/
structure Exchange where
  now : Instant
  line : String
  members : List (String × Value)

namespace Exchange

/-- The answer as it is written. -/
def text (exchange : Exchange) : String := (Value.object exchange.members).compact

lemma unbroken (exchange : Exchange) :
    '\n' ∉ exchange.text.toList ∧ '\r' ∉ exchange.text.toList :=
  ⟨Json.not_mem_compact (by decide), Json.not_mem_compact (by decide)⟩

end Exchange

/-- What a line is answered in a state of the service, and the state that it leaves.  An answer has
an error and nothing else behind the identifier, or a session and nothing, a result or a flag
besides. -/
inductive Answered (now : Instant) (service : Service) (line : String) :
    List (String × Value) → Service → Prop where
  /-- A line that is no request has no identifier and changes nothing. -/
  | malformed {message : String} (h : Request.parse line = .error message) :
      Answered now service line
        [("id", .null), ("error", .string ("Parse error: " ++ message))] service
  /-- No live session has the number yet. -/
  | created {id : Value} (h : Request.parse line = .ok ⟨id, .create⟩)
      (hnew : service.shell.seat? service.shell.nextId = none) :
      Answered now service line [("id", id), ("session", sessionValue service.shell.nextId)]
        { service with shell := (service.shell.create now).2.1 }
  | executed {id : Value} {session : Nat} {command : String} {done : Shell.Executed}
      (h : Request.parse line = .ok ⟨id, .execute session command⟩)
      (hlive : (service.shell.seat? session).isSome = true)
      (hdone : service.shell.execute session command now service.draws = .ok done) :
      Answered now service line
        [("id", id), ("session", sessionValue session), ("result", reportValue done.report)]
        ⟨done.shell, done.draws⟩
  /-- No live session has the number: nothing is executed. -/
  | unknown {id : Value} {session : Nat} {command : String}
      (h : Request.parse line = .ok ⟨id, .execute session command⟩)
      (hsession : service.shell.seat? session = none) :
      Answered now service line
        [("id", id), ("error", .string ("session " ++ toString session ++ " not found"))] service
  /-- The flag tells whether there was something to close. -/
  | closed {id : Value} {session : Nat} (h : Request.parse line = .ok ⟨id, .close session⟩) :
      Answered now service line
        [("id", id), ("session", sessionValue session),
          ("closed", .bool (service.shell.seat? session).isSome)]
        { service with shell := (service.shell.close session).2.1 }

/-- The step of a shell that an operation asks for. -/
def Operation.step (draws : Draws) : Operation → Shell.Step
  | create => .create
  | execute session command => .execute session command draws
  | close session => .close session

lemma serve_shell (service : Service) (request : Request) (now : Instant) :
    (service.serve request now).service.shell
      = service.shell.after now (request.operation.step service.draws) := by
  obtain ⟨id, operation⟩ := request
  cases operation with
  | create => rfl
  | close session => rfl
  | execute session command =>
      simp only [Service.serve, Operation.step, Shell.after]
      cases service.shell.execute session command now service.draws <;> rfl

lemma serve_id (service : Service) (request : Request) (now : Instant) :
    (service.serve request now).response.id = request.id := by
  obtain ⟨id, operation⟩ := request
  cases operation with
  | create => rfl
  | close session => rfl
  | execute session command =>
      simp only [Service.serve]
      cases service.shell.execute session command now service.draws <;> rfl

/-- A request is answered under its identifier. -/
lemma answered_serve {request : Request} (h : Request.parse line = .ok request)
    (hledger : Ledger told service.shell) :
    Answered now service line
      (("id", (service.serve request now).response.id)
        :: (service.serve request now).response.answer.members)
      (service.serve request now).service := by
  obtain ⟨id, operation⟩ := request
  cases operation with
  | create => exact .created h hledger.seat?_nextId
  | close session =>
      have hclosed : (service.shell.close session).1 = (service.shell.seat? session).isSome := by
        simp only [Shell.close]
        split
        · rename_i hlive
          exact hlive.symm
        · rename_i hnone
          exact (Bool.eq_false_iff.mpr hnone).symm
      simp only [Service.serve, Answer.members, hclosed]
      exact .closed h
  | execute session command =>
      simp only [Service.serve]
      cases hseat : service.shell.seat? session with
      | none =>
          have hrefused : service.shell.execute session command now service.draws
              = .error (.sessionNotFound session) := by
            simp only [Shell.execute, hseat]
          rw [hrefused]
          exact .unknown h hseat
      | some seat =>
          have hlive : (service.shell.seat? session).isSome = true := by
            rw [hseat, Option.isSome_some]
          obtain ⟨done, hdone, -⟩ := Shell.exists_executed command now service.draws hseat
          rw [hdone]
          exact .executed h hlive hdone

/-- A line that is not blank is answered, and the account of the sessions is kept. -/
lemma exists_answered (now : Instant) (hledger : Ledger told service.shell)
    (hline : Text.trim line ≠ "") :
    ∃ served members later, service.answerLine? line now = some served
      ∧ Answered now service line members served.service
      ∧ served.response.text = (Value.object members).compact
      ∧ Ledger later served.service.shell := by
  simp only [Service.answerLine?, if_neg hline]
  cases hparse : Request.parse line with
  | ok request =>
      have hlater := hledger.after now (request.operation.step service.draws)
      rw [← serve_shell] at hlater
      exact ⟨_, _, _, rfl, answered_serve hparse hledger, rfl, hlater⟩
  | error message => exact ⟨_, _, told, rfl, .malformed hparse, rfl, hledger⟩

/-- The identifier of a request comes back as it is read, and a line that is no request has none. -/
lemma map_id_answerLines (now : Instant) (service : Service) (hline : Text.trim line ≠ "") :
    (Service.answerLines [(now, .ok line)] service).1.map Response.id
      = [((Request.parse line).toOption.map Request.id).getD .null] := by
  simp only [Service.answerLines, Service.answerLine?, if_neg hline]
  cases Request.parse line with
  | error message => rfl
  | ok request => exact congrArg ([·]) (serve_id service request now)

lemma toOption_parse (line : String) :
    (Request.parse line).toOption = (readRequest line.toList).toOption := by
  rw [Request.parse]
  cases readRequest line.toList <;> rfl

/-! ## A run -/

/-- A service answers lines, one after the other. -/
inductive Serves : Service → List Exchange → Service → Prop where
  | nil {service : Service} : Serves service [] service
  | cons {service next last : Service} {exchange : Exchange} {rest : List Exchange}
      (first : Answered exchange.now service exchange.line exchange.members next)
      (more : Serves next rest last) : Serves service (exchange :: rest) last

/-- The lines of an input that are heard: without a fault all of them, and with one those before the
first that cannot be read. -/
def Heard (reads : List (Instant × Except ReadFault String)) (lines : List (Instant × String)) :
    Option ReadFault → Prop
  | none => reads = lines.map fun read => (read.1, .ok read.2)
  | some fault => ∃ now rest,
      reads = (lines.map fun read => (read.1, .ok read.2)) ++ (now, .error fault) :: rest

lemma Heard.cons {reads : List (Instant × Except ReadFault String)}
    {lines : List (Instant × String)} {fault : Option ReadFault} (now : Instant) (line : String)
    (h : Heard reads lines fault) :
    Heard ((now, .ok line) :: reads) ((now, line) :: lines) fault := by
  cases fault with
  | none => exact congrArg ((now, .ok line) :: ·) h
  | some fault =>
      obtain ⟨instant, rest, hreads⟩ := h
      exact ⟨instant, rest, congrArg ((now, .ok line) :: ·) hreads⟩

/-- The loop over an input is a run over the lines that are heard and are not blank; by induction on
the input, from any state of the service whose sessions are accounted for. -/
lemma exists_serves (hledger : Ledger told service.shell)
    (reads : List (Instant × Except ReadFault String)) :
    ∃ lines exchanges last, Heard reads lines (Service.answerLines reads service).2
      ∧ Serves service exchanges last
      ∧ exchanges.map (fun exchange => (exchange.now, exchange.line))
        = lines.filter (fun read => Text.trim read.2 ≠ "")
      ∧ (Service.answerLines reads service).1.map Response.text
        = exchanges.map Exchange.text := by
  induction reads generalizing service told with
  | nil => exact ⟨[], [], service, rfl, .nil, rfl, rfl⟩
  | cons read rest ih =>
      obtain ⟨now, fault | line⟩ := read
      · exact ⟨[], [], service, ⟨now, rest, rfl⟩, .nil, rfl, rfl⟩
      · rw [Service.answerLines]
        by_cases hblank : Text.trim line = ""
        · obtain ⟨lines, exchanges, last, hheard, hserves, hlines, htexts⟩ := ih hledger
          have hnone : service.answerLine? line now = none := by
            rw [Service.answerLine?, if_pos hblank]
          rw [hnone]
          refine ⟨_, exchanges, last, hheard.cons now line, hserves, ?_, htexts⟩
          rw [List.filter_cons_of_neg (by simp [hblank]), hlines]
        · obtain ⟨served, members, later, hserved, hanswered, htext, hlater⟩ :=
            exists_answered now hledger hblank
          obtain ⟨lines, exchanges, last, hheard, hserves, hlines, htexts⟩ := ih hlater
          rw [hserved]
          refine ⟨_, ⟨now, line, members⟩ :: exchanges, last, hheard.cons now line,
            .cons hanswered hserves, ?_, ?_⟩
          · rw [List.filter_cons_of_pos (by simpa using hblank), List.map_cons, hlines]
          · rw [List.map_cons, List.map_cons, htexts, htext, Exchange.text]

/-- **Every line is answered once, in order.**  Take any history of a shell and any input, with its
lines read at any instants.  The lines that are heard and are not blank, and no others, are answered
one after the other, each in the state that the line before it has left; and the output, cut into
lines, is their answers in the same order.  Only a line that cannot be read keeps those behind it
from being heard, and then its fault is how the loop ends. -/
theorem answers_every_line (interpreter : Interpreter) (isolation : Isolation) (limits : Limits)
    (start : Instant) (steps : List (Instant × Shell.Step)) (draws : Draws)
    (reads : List (Instant × Except ReadFault String)) :
    let service : Service := ⟨(Shell.new interpreter isolation limits start).run steps, draws⟩
    ∃ lines exchanges last, Heard reads lines (Service.answerLines reads service).2
      ∧ Serves service exchanges last
      ∧ exchanges.map (fun exchange => (exchange.now, exchange.line))
        = lines.filter (fun read => Text.trim read.2 ≠ "")
      ∧ Text.linesOf (Text.unlines ((Service.answerLines reads service).1.map Response.text))
        = exchanges.map Exchange.text := by
  intro service
  have hledger : Ledger _ service.shell :=
    (Ledger.new interpreter isolation limits start).run steps
  obtain ⟨lines, exchanges, last, hheard, hserves, hlines, htexts⟩ := exists_serves hledger reads
  refine ⟨lines, exchanges, last, hheard, hserves, hlines, ?_⟩
  rw [htexts]
  refine Text.linesOf_unlines fun text htext => ?_
  obtain ⟨exchange, -, rfl⟩ := List.mem_map.mp htext
  exact exchange.unbroken

/-- A line that is no text is not answered, nor is the request behind it.  And an identifier comes
back as it is read: two whole numbers that differ only where a double holds nothing any more are
answered alike. -/
theorem unread_line_ends_answers :
    let service : Service := ⟨Shell.new .usual .shared {} ⟨0, 0⟩, []⟩
    Service.answerLines [(⟨0, 0⟩, .error .notText),
        (⟨1, 0⟩, .ok "\x7b\"id\":1,\"op\":\"create\"\x7d")] service = ([], some .notText)
      ∧ (Service.answerLines
          [(⟨0, 0⟩, .ok "\x7b\"id\":123456789012345680000,\"op\":\"create\"\x7d")] service).1.map
            Response.id
        = (Service.answerLines
          [(⟨0, 0⟩, .ok "\x7b\"id\":123456789012345680001,\"op\":\"create\"\x7d")] service).1.map
            Response.id := by
  intro service
  refine ⟨rfl, ?_⟩
  rw [map_id_answerLines _ _ (by decide +kernel), map_id_answerLines _ _ (by decide +kernel),
    toOption_parse, toOption_parse]
  -- Of either number the reader takes in twenty digits, and a power of ten for the last.
  simp only [String.reduceToList]
  rfl

end VirtualShell.Frontend
