import VirtualShell.Proofs.Shell.Safety

/-!
# One line in a shell

A line that is not blank names a command (`exists_words`).  The command runs in the session that has
settled in the namespace of its seat; then the session settles again, in the namespace that the
command has left, and the shell keeps both (`Shell.execute_line`).
-/

namespace VirtualShell

open Time (Instant)

/-! ## Words -/

namespace Text

lemma exists_not_blank_of_trim {line : String} (h : trim line ≠ "") :
    ∃ c ∈ (trim line).toList, isBlank c = false := by
  have hchars : (trim line).toList = trimBoth isBlank line.toList := by simp [trim, trimMatches]
  have hne : ((line.toList.dropWhile isBlank).reverse).dropWhile isBlank ≠ [] := by
    intro hnil
    refine h (String.toList_inj.mp ?_)
    rw [hchars, trimBoth, hnil]
    rfl
  rw [hchars, trimBoth]
  exact ⟨_, List.mem_reverse.mpr (List.head_mem hne), List.head_dropWhile_not isBlank hne⟩

/-- Where no word has been found, all is blank; by induction from the end of the text, where the
words are collected. -/
lemma all_blank_of_wordsOf_eq_nil {text : List Char} (h : wordsOf text = []) :
    ∀ c ∈ text, isBlank c = true := by
  have hcut : ∀ (current : List Char) (found : List (List Char)),
      (if current.isEmpty then found else current :: found) = [] → current = [] ∧ found = [] := by
    rintro (_ | ⟨c, current⟩) found hnone
    · exact ⟨rfl, by simpa using hnone⟩
    · simp at hnone
  obtain ⟨hcurrent, hfound⟩ := hcut _ _ h
  clear h
  induction text with
  | nil => simp
  | cons c rest ih =>
      rw [List.foldr_cons] at hcurrent hfound
      by_cases hblank : isBlank c = true
      · rw [if_pos hblank] at hfound
        obtain ⟨hrest, hmore⟩ := hcut _ _ hfound
        exact List.forall_mem_cons.mpr ⟨hblank, ih hrest hmore⟩
      · rw [if_neg hblank] at hcurrent
        simp at hcurrent

/-- A line that is not blank names a command. -/
lemma exists_words {line : String} (h : trim line ≠ "") :
    ∃ name args, words (trim line) = name :: args := by
  refine List.exists_cons_of_ne_nil ?_
  rw [words, Ne, List.map_eq_nil_iff]
  intro hnone
  obtain ⟨c, hc, hnot⟩ := exists_not_blank_of_trim h
  rw [all_blank_of_wordsOf_eq_nil hnone c hc] at hnot
  exact Bool.noConfusion hnot

end Text

/-- What a command is called with in a session that has settled. -/
def Interpreter.invocation (interpreter : Interpreter) (name : String) (args : List String)
    (settled : Session) (now : Instant) : Invocation :=
  ⟨name, args, settled, interpreter.hostname, interpreter.policy, interpreter.naming, now⟩

/-- A name that is registered runs its command. -/
lemma Interpreter.dispatch_of_find? {interpreter : Interpreter} {name : String} {command : Command}
    (args : List String) (session : Session) (store : Store) (now : Instant) (draws : Draws)
    (hcommands : interpreter.commands = Registry.builtin)
    (hfind : Registry.builtin.find? name = some command) :
    interpreter.dispatch name args session store now draws
      = command.run (interpreter.invocation name args session now) store draws := by
  simp only [dispatch, hcommands, hfind, invocation]

namespace Shell

variable {shell : Shell} {id : Nat} {seat : Seat} {now : Instant}

/-! ## What stays -/

/-- No step changes the commands. -/
lemma interpreter_run {steps : List (Instant × Step)} :
    (shell.run steps).interpreter = shell.interpreter := by
  have hafter : ∀ (shell : Shell) (now : Instant) (step : Step),
      (shell.after now step).interpreter = shell.interpreter := by
    intro shell now step
    cases step with
    | create => rfl
    | close id =>
        simp only [after, close]
        split <;> rfl
    | execute id line draws =>
        simp only [after, execute]
        cases shell.seat? id with
        | none => rfl
        | some seat => exact interpreter_advance
  induction steps generalizing shell with
  | nil => rfl
  | cons entry rest ih =>
      change ((shell.after entry.1 entry.2).run rest).interpreter = _
      rw [ih, hafter]

lemma Reachable.commands (h : Reachable shell) :
    shell.interpreter.commands = Registry.builtin := by
  obtain ⟨_, _, _, _, _, _, _, rfl⟩ := h
  rw [interpreter_run]
  rfl

lemma Reachable.isNormal_cwd (h : Reachable shell) (hseat : shell.seat? id = some seat) :
    Path.IsNormal seat.session.cwd := by
  obtain ⟨entry, hentry, rfl⟩ := exists_of_seat? hseat
  exact h.sound.standing entry hentry

lemma Reachable.safe (h : Reachable shell) (hseat : shell.seat? id = some seat) :
    Store.Safe (shell.storeOf seat) := h.sound.safe _ (storeOf_mem hseat)

/-- A reachable shell that has answered a line can be reached. -/
lemma Reachable.executed {line : String} {draws : Draws} {executed : Executed}
    (h : Reachable shell) (hexecute : shell.execute id line now draws = .ok executed) :
    Reachable executed.shell := by
  have hafter : shell.after now (.execute id line draws) = executed.shell := by
    rw [after, hexecute]
  obtain ⟨hostname, policy, naming, isolation, limits, start, steps, rfl⟩ := h
  refine ⟨hostname, policy, naming, isolation, limits, start,
    steps ++ [(now, .execute id line draws)], ?_⟩
  rw [run, List.foldl_append]
  exact hafter.symm

/-! ## What moves on -/

/-- A session that has moved on sits where it sat. -/
lemma seat?_advance {session : Session} {store : Store} (h : shell.seat? id = some seat) :
    (shell.advance id seat session store).seat? id
      = some ⟨session, seat.ownStore.map fun _ => store⟩ := by
  obtain ⟨entry, hfind, -⟩ := Option.map_eq_some_iff.mp h
  have hid : entry.1 = id := by simpa using List.find?_some hfind
  -- no entry changes its number
  have hsame : (fun entry : Nat × Seat => decide (entry.1 = id))
      ∘ (fun entry => if entry.1 = id
          then (id, ⟨session, seat.ownStore.map fun _ => store⟩) else entry)
        = fun entry => decide (entry.1 = id) := by
    funext entry
    by_cases hentry : entry.1 = id <;> simp [hentry]
  rw [seat?, seats_advance, List.find?_map, hsame, hfind, Option.map_some, if_pos hid]
  rfl

/-- The namespace of a session after it has moved on. -/
lemma store?_advance {session : Session} {store : Store} (h : shell.seat? id = some seat) :
    (shell.advance id seat session store).store? id = some store := by
  rw [store?, seat?_advance h, Option.map_some, storeOf]
  simp only [advance]
  cases seat.ownStore <;> rfl

lemma cwd_advance {session : Session} {store : Store} (h : shell.seat? id = some seat) :
    (shell.advance id seat session store).cwd id = .ok session.cwd := by
  simp only [cwd, seat?_advance h]

/-- A session is known by its namespace and its directory. -/
lemma exists_seat {store : Store} {dir : String} (hstore : shell.store? id = some store)
    (hcwd : shell.cwd id = .ok dir) :
    ∃ seat, shell.seat? id = some seat ∧ shell.storeOf seat = store ∧ seat.session.cwd = dir := by
  obtain ⟨seat, hseat, hsame⟩ := Option.map_eq_some_iff.mp hstore
  rw [cwd, hseat] at hcwd
  exact ⟨seat, hseat, hsame, Except.ok.inj hcwd⟩

/-- A live session is answered with what the interpreter reports and tells. -/
lemma exists_executed (line : String) (now : Instant) (draws : Draws)
    (h : shell.seat? id = some seat) :
    ∃ executed, shell.execute id line now draws = .ok executed
      ∧ executed.report = (shell.interpreter.execute seat.session (shell.storeOf seat) line now
          draws).report
      ∧ executed.events = (shell.interpreter.execute seat.session (shell.storeOf seat) line now
          draws).events := by
  simp only [execute, h]
  generalize shell.interpreter.execute seat.session (shell.storeOf seat) line now draws = outcome
  exact ⟨_, rfl, rfl, rfl⟩

/-- **What a line does.** -/
theorem execute_line {line name : String} {args : List String} {draws : Draws}
    {executed : Executed} (hseat : shell.seat? id = some seat)
    (hwords : Text.words (Text.trim line) = name :: args)
    (hexecute : shell.execute id line now draws = .ok executed) :
    ∃ settled ran,
      settled = ((seat.session.record (Text.trim line)).settle (shell.storeOf seat)).1
      ∧ ran = shell.interpreter.dispatch name args settled (shell.storeOf seat) now draws
      ∧ executed.shell.store? id = some ran.store
      ∧ executed.shell.cwd id = .ok executed.report.currentDirectory
      ∧ executed.report = ⟨ran.verdict.toReply name, (ran.session.settle ran.store).1.cwd⟩ := by
  simp only [execute, hseat] at hexecute
  obtain rfl := Except.ok.inj hexecute
  simp only [store?_advance hseat, cwd_advance hseat]
  exact ⟨_, _, rfl, rfl, by simp [Interpreter.execute, hwords]⟩

/-- What the command of a line is called with: the session records the line and settles first. -/
def called (shell : Shell) (seat : Seat) (line name : String) (args : List String)
    (now : Instant) : Invocation :=
  shell.interpreter.invocation name args
    ((seat.session.record (Text.trim line)).settle (shell.storeOf seat)).1 now

/-- **What a line with a built-in command does.**  The command is called in the directory that the
session has settled in. -/
theorem execute_builtin {line name : String} {args : List String} {command : Command}
    {draws : Draws} {executed : Executed} (hreach : shell.Reachable)
    (hseat : shell.seat? id = some seat) (hwords : Text.words (Text.trim line) = name :: args)
    (hfind : Registry.builtin.find? name = some command)
    (hexecute : shell.execute id line now draws = .ok executed) :
    ∃ ran, ran = command.run (shell.called seat line name args now) (shell.storeOf seat) draws
      ∧ executed.shell.store? id = some ran.store
      ∧ executed.shell.cwd id = .ok executed.report.currentDirectory
      ∧ executed.report = ⟨ran.verdict.toReply name, (ran.session.settle ran.store).1.cwd⟩
      ∧ Path.IsNormal (shell.called seat line name args now).cwd := by
  obtain ⟨settled, ran, hsettled, hran, hstore, hcwd, hreport⟩ := execute_line hseat hwords hexecute
  have hcall : shell.called seat line name args now
      = shell.interpreter.invocation name args settled now := by rw [called, ← hsettled]
  have hnormal : Path.IsNormal (seat.session.record (Text.trim line)).cwd :=
    hreach.isNormal_cwd hseat
  rw [Interpreter.dispatch_of_find? args _ _ now draws hreach.commands hfind, ← hcall] at hran
  exact ⟨ran, hran, hstore, hcwd, hreport, Session.isNormal_settle hnormal⟩

end Shell

end VirtualShell
