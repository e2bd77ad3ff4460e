import VirtualShell.Proofs.Shell.ReportedDirectory

/-!
# The table of sessions

Whoever uses a shell knows of its sessions only from the answers: a number for each that is begun, a
report for each line, and whether there was something to close.  These answers settle what the table
holds.  A session is live if its number has been given and it has not been closed, and its history is
what has been typed in it and answered with a report, without the blank lines.

* `Answer` and `Shell.answers` — what a shell says to the steps of a history.
* `begun`, `ended`, `live` and `typed` — the account that the answers give of the sessions.
* `Ledger` — the table agrees with the account.  Every step keeps this, by cases on the step.

Nothing is asked of the commands.  They may fail, say anything or break off: a line is recorded
before its command is looked for, and no command can change what is recorded
(`Interpreter.execute_history`).  Reading a history is no step, since it gives no new shell.
-/

namespace VirtualShell

open Time (Instant)

/-! ## What a line does to the history -/

variable {session : Session} {store : Store} {draws : Draws} {now : Instant} {line : String}

lemma Session.settle_history : (session.settle store).1.history = session.history := by
  rw [settle_eq]

lemma Command.run_history (command : Command) (call : Invocation) (store : Store) (draws : Draws) :
    (command.run call store draws).session.history = call.session.history := by
  cases command with
  | navigate answer =>
    simp only [run]
    split <;> rfl
  | inspect answer => rw [run_session rfl]
  | monitor answer => rw [run_session rfl]
  | tool plan => rw [run_session rfl]
  | edit answer => rw [run_session rfl]

namespace Interpreter

lemma dispatch_history (interpreter : Interpreter) (name : String) (args : List String)
    (session : Session) (store : Store) (now : Instant) (draws : Draws) :
    (interpreter.dispatch name args session store now draws).session.history = session.history := by
  simp only [dispatch]
  cases interpreter.commands.find? name with
  | none => rfl
  | some command => exact command.run_history _ store draws

/-- Every line is recorded once, without the blanks around it, unless it is all blank. -/
theorem execute_history (interpreter : Interpreter) (session : Session) (store : Store)
    (line : String) (now : Instant) (draws : Draws) :
    (interpreter.execute session store line now draws).session.history
      = session.history ++ if Text.trim line = "" then [] else [Text.trim line] := by
  by_cases hline : Text.trim line = ""
  · rw [execute_blank _ _ _ _ _ hline, if_pos hline, List.append_nil]
  · obtain ⟨name, args, hwords⟩ := Text.exists_words hline
    obtain ⟨settled, hsettled, -, hsession, -⟩ :=
      execute_of_words interpreter session store now draws hwords
    rw [hsession, Session.settle_history, dispatch_history, hsettled, Session.settle_history,
      if_neg hline, Session.record]

end Interpreter

namespace Shell

/-! ## What the answers tell -/

/-- What a step is answered. -/
inductive Answer where
  | created (id : Nat)
  | executed (id : Nat) (line : String) (result : Except Failure Report)
  | closed (id : Nat) (done : Bool)

/-- What a shell answers to a step. -/
def answer (shell : Shell) (now : Instant) : Step → Answer
  | .create => .created (shell.create now).1
  | .execute id line draws =>
    .executed id line ((shell.execute id line now draws).map Executed.report)
  | .close id => .closed id (shell.close id).1

/-- What a shell answers to a history, in order. -/
def answers (shell : Shell) : List (Instant × Step) → List Answer
  | [] => []
  | (now, step) :: rest => shell.answer now step :: (shell.after now step).answers rest

namespace Answer

/-- The number that has been given. -/
def begun? : Answer → Option Nat
  | created id => some id
  | _ => none

/-- The number of the session that has been closed. -/
def ended? : Answer → Option Nat
  | closed id true => some id
  | _ => none

/-- The line that has been executed in session `id`, as it was meant: without the blanks around it,
and none if it is all blank. -/
def typed? (id : Nat) : Answer → Option String
  | executed other line (.ok _) =>
    if other = id ∧ Text.trim line ≠ "" then some (Text.trim line) else none
  | _ => none

end Answer

variable {told : List Answer} {id other : Nat} {shell : Shell}

/-- The numbers that have been given, in order. -/
def begun (told : List Answer) : List Nat := told.filterMap Answer.begun?

/-- The numbers of the sessions that have been closed. -/
def ended (told : List Answer) : List Nat := told.filterMap Answer.ended?

/-- The sessions that have been begun and not closed. -/
def live (told : List Answer) : List Nat := (begun told).filter fun id => id ∉ ended told

/-- What has been typed in a session. -/
def typed (id : Nat) (told : List Answer) : List String := told.filterMap (Answer.typed? id)

@[simp] lemma begun_concat (answer : Answer) :
    begun (told ++ [answer]) = begun told ++ answer.begun?.toList := by
  cases h : answer.begun? <;> simp [begun, h]

@[simp] lemma ended_concat (answer : Answer) :
    ended (told ++ [answer]) = ended told ++ answer.ended?.toList := by
  cases h : answer.ended? <;> simp [ended, h]

@[simp] lemma typed_concat (answer : Answer) :
    typed id (told ++ [answer]) = typed id told ++ (answer.typed? id).toList := by
  cases h : answer.typed? id <;> simp [typed, h]

lemma mem_live : id ∈ live told ↔ id ∈ begun told ∧ id ∉ ended told := by simp [live]

/-! ## What a session is answered -/

/-- A shell that has a session, with this history. -/
structure Serves (shell : Shell) (id : Nat) (history : List String) : Prop where
  execute : ∀ line now draws, ∃ executed, shell.execute id line now draws = .ok executed
  history : shell.history id = .ok history
  close : (shell.close id).1 = true

/-- A shell that does not have a session: whatever is asked of it is refused, and the shell stays as
it is. -/
structure Refuses (shell : Shell) (id : Nat) : Prop where
  execute : ∀ line now draws, shell.execute id line now draws = .error (.sessionNotFound id)
    ∧ shell.after now (.execute id line draws) = shell
  history : shell.history id = .error (.sessionNotFound id)
  close : shell.close id = (false, shell, [])

lemma serves_of_seat? {seat : Seat} (h : shell.seat? id = some seat) :
    Serves shell id seat.session.history := by
  refine ⟨fun line now draws => ?_, by simp only [history, h], by simp [close, h]⟩
  obtain ⟨executed, hexecute, -⟩ := exists_executed line now draws h
  exact ⟨executed, hexecute⟩

lemma refuses_of_seat? (h : shell.seat? id = none) : Refuses shell id :=
  ⟨fun line now draws => by simp [after, execute, h], by simp only [history, h], by simp [close, h]⟩

lemma seat?_eq_none_iff : shell.seat? id = none ↔ id ∉ shell.seats.map Prod.fst := by
  rw [seat?, Option.map_eq_none_iff, List.find?_eq_none]
  constructor
  · rintro hnone hmem
    obtain ⟨entry, hentry, rfl⟩ := List.mem_map.mp hmem
    exact hnone entry hentry (decide_eq_true rfl)
  · intro hmem entry hentry hid
    exact hmem (List.mem_map.mpr ⟨entry, hentry, of_decide_eq_true hid⟩)

/-! ## The table and the account -/

/-- A shell whose table is as its answers have told. -/
structure Ledger (told : List Answer) (shell : Shell) : Prop where
  table : shell.seats.map Prod.fst = live told
  nodup : (begun told).Nodup
  /-- The next number has not been given, and no later one. -/
  fresh : ∀ id ∈ begun told, id < shell.nextId
  /-- Only what has been begun is told of. -/
  known : ∀ id, (id ∈ ended told ∨ typed id told ≠ []) → id ∈ begun told
  histories : ∀ entry ∈ shell.seats, entry.2.session.history = typed entry.1 told

namespace Ledger

lemma new (interpreter : Interpreter) (isolation : Isolation) (limits : Limits) (now : Instant) :
    Ledger [] (new interpreter isolation limits now) :=
  ⟨rfl, List.nodup_nil, by simp [begun], by simp [ended, typed], by simp [Shell.new]⟩

/-- An answer that tells nothing of a session leaves the account as it is. -/
lemma concat_of_silent {answer : Answer} (h : Ledger told shell) (hbegun : answer.begun? = none)
    (hended : answer.ended? = none) (htyped : ∀ id, answer.typed? id = none) :
    Ledger (told ++ [answer]) shell := by
  refine ⟨?_, ?_, ?_, ?_, ?_⟩
  · simpa [live, hbegun, hended] using h.table
  · simpa [hbegun] using h.nodup
  · simpa [hbegun] using h.fresh
  · simpa [hbegun, hended, htyped] using h.known
  · simpa [htyped] using h.histories

lemma create (h : Ledger told shell) (now : Instant) :
    Ledger (told ++ [.created shell.nextId]) (shell.create now).2.1 := by
  have hnew : shell.nextId ∉ begun told := fun hgiven => Nat.lt_irrefl _ (h.fresh _ hgiven)
  have hopen : shell.nextId ∉ ended told := fun hended => hnew (h.known _ (Or.inl hended))
  have hsilent : typed shell.nextId told = [] := by
    by_contra htyped
    exact hnew (h.known _ (Or.inr htyped))
  refine ⟨?_, ?_, ?_, ?_, ?_⟩
  · simpa [Shell.create, live, Answer.begun?, Answer.ended?, List.filter_append, hopen]
      using h.table
  · simpa [Answer.begun?, List.nodup_append] using
      ⟨h.nodup, fun id hid => Nat.ne_of_lt (h.fresh id hid)⟩
  · simpa [Answer.begun?, Shell.create, or_imp, forall_and] using
      fun id hid => Nat.lt_succ_of_lt (h.fresh id hid)
  · simpa [Answer.begun?, Answer.ended?, Answer.typed?] using
      fun id hid => Or.inl (h.known id hid)
  · intro entry hentry
    rcases List.mem_append.mp hentry with hold | hmade
    · simpa [Answer.typed?] using h.histories entry hold
    · rw [List.mem_singleton.mp hmade]
      simp [Answer.typed?, hsilent]

lemma mem_begun_of_seat? {seat : Seat} (h : Ledger told shell) (hseat : shell.seat? id = some seat) :
    id ∈ begun told := by
  have hmem : id ∈ shell.seats.map Prod.fst :=
    List.mem_map.mpr ⟨_, mem_seats_of_seat? hseat, rfl⟩
  rw [h.table] at hmem
  exact (mem_live.mp hmem).1

/-- The next number is free. -/
lemma seat?_nextId (h : Ledger told shell) : shell.seat? shell.nextId = none := by
  by_contra hsome
  obtain ⟨seat, hseat⟩ := Option.ne_none_iff_exists'.mp hsome
  exact Nat.lt_irrefl _ (h.fresh _ (h.mem_begun_of_seat? hseat))

lemma execute {seat : Seat} {session : Session} {report : Report} (h : Ledger told shell)
    (hseat : shell.seat? id = some seat)
    (hsession : session.history
      = seat.session.history ++ if Text.trim line = "" then [] else [Text.trim line]) :
    Ledger (told ++ [.executed id line (.ok report)]) (shell.advance id seat session store) := by
  obtain ⟨seats, commons, hframe⟩ := frame_advance shell id seat session store
  have hseats := seats_advance shell id seat session store
  rw [hframe] at hseats ⊢
  change seats = _ at hseats
  have hnumbers : seats.map Prod.fst = shell.seats.map Prod.fst := by
    rw [hseats, List.map_map]
    refine List.map_congr_left fun entry _ => ?_
    by_cases hentry : entry.1 = id <;> simp [hentry]
  refine ⟨?_, ?_, ?_, fun other hother => ?_, fun entry hentry => ?_⟩
  · simpa [live, Answer.begun?, Answer.ended?] using hnumbers.trans h.table
  · simpa [Answer.begun?] using h.nodup
  · simpa [Answer.begun?] using h.fresh
  · by_cases hid : other = id
    · simpa [hid, Answer.begun?] using h.mem_begun_of_seat? hseat
    · exact by simpa [Answer.begun?, Answer.ended?, Answer.typed?, Ne.symm hid] using
        h.known other (by simpa [Answer.ended?, Answer.typed?, Ne.symm hid] using hother)
  · obtain ⟨before, hbefore, rfl⟩ := List.mem_map.mp (hseats ▸ hentry)
    by_cases hid : before.1 = id
    · have hold : seat.session.history = typed id told :=
        h.histories _ (mem_seats_of_seat? hseat)
      by_cases hblank : Text.trim line = "" <;> simp [hid, hsession, hold, Answer.typed?, hblank]
    · simpa [hid, Ne.symm hid, Answer.typed?] using h.histories before hbefore

lemma close (h : Ledger told shell) (hseat : (shell.seat? id).isSome = true) :
    Ledger (told ++ [.closed id true]) (shell.close id).2.1 := by
  obtain ⟨seat, hsome⟩ := Option.isSome_iff_exists.mp hseat
  have hbegun := h.mem_begun_of_seat? hsome
  rw [Shell.close, if_pos hseat]
  refine ⟨?_, ?_, ?_, fun other hother => ?_, fun entry hentry => ?_⟩
  · have htable := congrArg (List.filter fun other => decide (other ≠ id)) h.table
    rw [List.filter_map, live, List.filter_filter] at htable
    simpa [live, Answer.begun?, Answer.ended?, Function.comp_def, and_comm, Bool.and_comm]
      using htable
  · simpa [Answer.begun?] using h.nodup
  · simpa [Answer.begun?] using h.fresh
  · by_cases hid : other = id
    · simpa [hid, Answer.begun?] using hbegun
    · exact by simpa [Answer.begun?, Answer.ended?, Answer.typed?, hid] using
        h.known other (by simpa [Answer.ended?, Answer.typed?, hid] using hother)
  · simpa [Answer.typed?] using h.histories entry (List.mem_of_mem_filter hentry)

/-- **Every step keeps the account.** -/
theorem after (h : Ledger told shell) (now : Instant) (step : Step) :
    Ledger (told ++ [shell.answer now step]) (shell.after now step) := by
  cases step with
  | create => exact h.create now
  | execute id line draws =>
      cases hseat : shell.seat? id with
      | none =>
          have hrefuses := (refuses_of_seat? hseat).execute line now draws
          rw [hrefuses.2]
          refine h.concat_of_silent rfl rfl fun other => ?_
          simp [answer, hrefuses.1, Answer.typed?, Except.map]
      | some seat =>
          have hhistory := shell.interpreter.execute_history seat.session (shell.storeOf seat) line
            now draws
          simpa only [answer, Shell.after, Shell.execute, hseat, Except.map]
            using h.execute hseat hhistory
  | close id =>
      by_cases hseat : (shell.seat? id).isSome = true
      · have hdone := h.close hseat
        simpa only [answer, Shell.after, Shell.close, if_pos hseat] using hdone
      · have hrefuses := refuses_of_seat? (Option.not_isSome_iff_eq_none.mp hseat)
        simp only [answer, Shell.after, hrefuses.close]
        exact h.concat_of_silent rfl rfl fun other => rfl

theorem run (h : Ledger told shell) (steps : List (Instant × Step)) :
    Ledger (told ++ shell.answers steps) (shell.run steps) := by
  induction steps generalizing told shell with
  | nil => simpa [answers, Shell.run] using h
  | cons entry rest ih =>
      obtain ⟨now, step⟩ := entry
      have hrest := ih (h.after now step)
      rw [List.append_assoc] at hrest
      exact hrest

end Ledger

/-- **The table of sessions.**  Take any commands, any kind of isolation, any limits and any history
of a shell.  No number has been given twice.  The sessions that are counted are those that have been
begun and not closed.  Such a session is served, and its history is what has been typed in it, in
order, without the blanks around each line and without the lines that are all blank.  Any other
number is refused, and then nothing changes. -/
theorem sessions_accounted (interpreter : Interpreter) (isolation : Isolation) (limits : Limits)
    (start : Instant) (steps : List (Instant × Step)) :
    let shell := new interpreter isolation limits start
    let told := shell.answers steps
    let later := shell.run steps
    (begun told).Nodup
      ∧ later.sessionCount = (live told).length
      ∧ ∀ id,
          (id ∈ begun told ∧ id ∉ ended told → Serves later id (typed id told))
            ∧ (id ∉ begun told ∨ id ∈ ended told → Refuses later id) := by
  intro shell told later
  have hledger : Ledger told later := (Ledger.new interpreter isolation limits start).run steps
  refine ⟨hledger.nodup, ?_, fun id => ⟨fun hlive => ?_, fun hgone => ?_⟩⟩
  · rw [sessionCount, ← hledger.table, List.length_map]
  · rw [← mem_live, ← hledger.table] at hlive
    obtain ⟨seat, hseat⟩ := Option.ne_none_iff_exists'.mp
      fun hnone => seat?_eq_none_iff.mp hnone hlive
    rw [← hledger.histories _ (mem_seats_of_seat? hseat)]
    exact serves_of_seat? hseat
  · refine refuses_of_seat? (seat?_eq_none_iff.mpr ?_)
    rw [hledger.table, mem_live]
    exact fun hlive => hgone.elim (absurd hlive.1) hlive.2

/-- A command that breaks off is typed with blanks around it, after a line of one no-break space;
then its session is closed, and a line comes too late. -/
example :
    let told := (new ⟨Registry.builtin.register "boom" (.inspect fun _ _ => .panic "!"),
        defaultHostname, {}, .plain⟩ .shared {} ⟨0, 0⟩).answers
      [(⟨0, 0⟩, .create), (⟨1, 0⟩, .execute 1 "\u00a0" []), (⟨2, 0⟩, .execute 1 " boom " []),
       (⟨3, 0⟩, .create), (⟨4, 0⟩, .close 1), (⟨5, 0⟩, .execute 1 "pwd" [])]
    begun told = [1, 2] ∧ live told = [2] ∧ typed 1 told = ["boom"] := by decide +kernel

end Shell

end VirtualShell
