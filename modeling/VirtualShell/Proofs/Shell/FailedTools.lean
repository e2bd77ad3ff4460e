import VirtualShell.Proofs.Shell.Line

/-!
# When a failed tool leaves no trace

A simulated tool that fails should leave the namespace as it was.  Most of the tools do: they write
a single file, or build a tree where nothing was.  Two do not always.

* `npm install` makes directories whose paths it joins from what was typed, and notes them for
  removal as they are spelled; one that is not spelled in normal form is not found again and stays.
* `javac` may overwrite a file that is larger than the limit, which can be there since the seed is
  not checked, and then cannot write it back.

`failed_tool_traceless_iff` says that nothing else can go wrong: in every reachable shell a failed
tool leaves no trace exactly if the effects that it had carried out were `Recoverable`.
-/

namespace VirtualShell

open Time (Instant)

open VirtualShell.Path (IsNormal)

open Store (Traceless WellFormed Safe)

/-- The commands that act a tool by a script. -/
def toolNames : List String :=
  ["git", "npm", "javac", "gcc", "g++", "curl", "wget", "tar", "zip"]

/-- A performance that succeeds answers with the text of the script. -/
lemma ToolScript.perform_eq_ok {script : ToolScript} {store : Store} {now : Instant}
    {reply : Reply} (h : (script.perform store now).1 = .ok reply) : reply = .ok script.output := by
  simp only [perform] at h
  split at h
  · exact (Except.ok.inj h).symm
  · simp at h

namespace Command

variable {call : Invocation} {store : Store} {draws : Draws} {script : ToolScript}
  {plan : Invocation → Store → Plan × List Log.Event}

/-- What a tool carries out before the first effect that fails. -/
def carriedOut (command : Command) (call : Invocation) (store : Store) : List Effect :=
  match command.script? call store with
  | none => []
  | some script => Effect.carriedOut call.now script.effects store

/-- A command that performs a script fails exactly if the performance does. -/
lemma run_failed_iff {command : Command} {name : String}
    (hscript : script? command call store = some script) :
    ((command.run call store draws).verdict.toReply name).success = false
      ↔ ∃ failure, (script.perform store call.now).1 = .error failure := by
  cases command with
  | tool plan =>
      rw [run_tool_verdict hscript]
      cases hperform : (script.perform store call.now).1 with
      | error failure => simp [Verdict.toReply, Reply.failed]
      | ok reply =>
          obtain rfl : reply = .ok script.output := ToolScript.perform_eq_ok hperform
          simp [Verdict.toReply, Reply.ok]
  | _ => simp [script?] at hscript

/-- **A failed tool leaves no trace exactly if what it has carried out can be taken back.** -/
theorem run_tool_traceless_iff {name : String} (hwell : WellFormed store)
    (htidy : ∀ script, script? (tool plan) call store = some script →
      ∀ effect ∈ script.effects, effect.Tidy)
    (hfailed : (((tool plan).run call store draws).verdict.toReply name).success = false) :
    Traceless store ((tool plan).run call store draws).store
      ↔ Recoverable store ((tool plan).carriedOut call store) := by
  rw [run_tool_store, carriedOut]
  cases hscript : script? (tool plan) call store with
  | none => exact ⟨fun _ => recoverable_nil, fun _ _ => rfl⟩
  | some script =>
      obtain ⟨failure, herror⟩ := (run_failed_iff hscript).mp hfailed
      obtain ⟨_, _, last, -, hcarried, -, hafter⟩ :=
        ToolScript.perform_eq_error (htidy script hscript) herror
      simpa [hafter] using hcarried.traceless_iff hwell

/-- Of a script that can always be taken back, what was carried out can be. -/
lemma recoverable_carriedOut {name : String}
    (htidy : ∀ script, script? (tool plan) call store = some script →
      ∀ effect ∈ script.effects, effect.Tidy)
    (hretractable : ∀ script, script? (tool plan) call store = some script →
      script.Retractable store)
    (hfailed : (((tool plan).run call store draws).verdict.toReply name).success = false) :
    Recoverable store ((tool plan).carriedOut call store) := by
  rw [carriedOut]
  cases hscript : script? (tool plan) call store with
  | none => exact recoverable_nil
  | some script =>
      obtain ⟨failure, herror⟩ := (run_failed_iff hscript).mp hfailed
      obtain ⟨failing, rest, _, heffects, -⟩ :=
        ToolScript.perform_eq_error (htidy script hscript) herror
      exact hretractable script hscript _ failing rest heffects

/-! ## The tools by name -/

/-- What is known of a tool on a store: it only ever writes under normal paths, and if it is
`careful`, its scripts can always be taken back. -/
structure Behaves (command : Command) (careful : Prop) : Prop where
  tool : ∃ plan, command = tool plan
  tidy : ∀ call store script, IsNormal call.cwd → WellFormed store →
    command.script? call store = some script → ∀ effect ∈ script.effects, effect.Tidy
  retractable : careful → ∀ call store script, IsNormal call.cwd → WellFormed store →
    command.script? call store = some script → script.Retractable store

lemma behaves_of_oneFile {careful : Prop}
    (h : ∀ call store script, script? (tool plan) call store = some script → OneFile script) :
    Behaves (tool plan) careful :=
  ⟨⟨plan, rfl⟩, fun call store script _ _ hscript effect heffect =>
      ((h call store script hscript).proper effect heffect).1,
    fun _ call store script _ _ hscript => (h call store script hscript).retractable⟩

lemma behaves_git {careful : Prop} : Behaves git careful :=
  ⟨⟨_, rfl⟩, fun _ _ _ hcwd hwell hscript effect heffect =>
      ((freshTree_git hcwd hwell hscript).proper effect heffect).1,
    fun _ _ _ _ hcwd hwell hscript => (freshTree_git hcwd hwell hscript).retractable⟩

lemma behaves_javac : Behaves javac False :=
  ⟨⟨_, rfl⟩, fun _ _ _ _ _ hscript effect heffect =>
    (proper_of_files (files_javac hscript) effect heffect).1, False.elim⟩

lemma behaves_npm : Behaves npm False :=
  ⟨⟨_, rfl⟩, fun _ _ _ _ _ hscript effect heffect =>
    ((directories_npm hscript).elim OneFile.proper proper_of_directories effect heffect).1,
    False.elim⟩

/-- The tools under their names; all but `npm` and `javac` are careful. -/
lemma find?_toolNames :
    ∀ name ∈ toolNames, ∃ command, Registry.builtin.find? name = some command
      ∧ Behaves command (name ≠ "npm" ∧ name ≠ "javac") := by
  simp only [toolNames, List.forall_mem_cons]
  refine ⟨⟨git, rfl, behaves_git⟩, ⟨npm, rfl, ?_⟩, ⟨javac, rfl, ?_⟩,
    ⟨gcc, rfl, behaves_of_oneFile fun _ _ _ => oneFile_gcc⟩,
    ⟨gcc, rfl, behaves_of_oneFile fun _ _ _ => oneFile_gcc⟩,
    ⟨curl, rfl, behaves_of_oneFile fun _ _ _ => oneFile_curl⟩,
    ⟨wget, rfl, behaves_of_oneFile fun _ _ _ => oneFile_wget⟩,
    ⟨tar, rfl, behaves_of_oneFile fun _ _ _ => oneFile_tar⟩,
    ⟨zip, rfl, behaves_of_oneFile fun _ _ _ => oneFile_zip⟩, List.forall_mem_nil _⟩
  · simpa using behaves_npm
  · simpa using behaves_javac

end Command

/-! ## In a shell -/

/-- What the tool that a line names carries out before the first effect that fails. -/
def Interpreter.carriedOut (interpreter : Interpreter) (session : Session) (store : Store)
    (line : String) (now : Instant) : List Effect :=
  match Text.words (Text.trim line) with
  | [] => []
  | name :: args =>
    match interpreter.commands.find? name with
    | none => []
    | some command =>
      command.carriedOut
        (interpreter.invocation name args ((session.record (Text.trim line)).settle store).1 now)
        store

namespace Shell

variable {shell : Shell} {id : Nat} {seat : Seat}

/-- **When a failed tool leaves no trace.**  In every reachable shell, a line whose tool fails
leaves the namespace of its session as it was exactly if the effects that it had carried out are
`Recoverable`; and of all tools but `npm` and `javac` they always are. -/
theorem failed_tool_traceless_iff {line name : String} {args : List String} {now : Instant}
    {draws : Draws} {executed : Executed} (hreach : shell.Reachable)
    (hseat : shell.seat? id = some seat) (hwords : Text.words (Text.trim line) = name :: args)
    (hname : name ∈ toolNames) (hexecute : shell.execute id line now draws = .ok executed)
    (hfailed : executed.report.success = false) :
    ∃ after, executed.shell.store? id = some after
      ∧ (Traceless (shell.storeOf seat) after
          ↔ Recoverable (shell.storeOf seat)
              (shell.interpreter.carriedOut seat.session (shell.storeOf seat) line now))
      ∧ (name ≠ "npm" ∧ name ≠ "javac" → Traceless (shell.storeOf seat) after) := by
  have hsound := hreach.sound
  have hcommands : shell.interpreter.commands = Registry.builtin := by
    obtain ⟨_, _, _, _, _, _, _, rfl⟩ := hreach
    rw [interpreter_run]
    rfl
  obtain ⟨command, hfind, ⟨plan, rfl⟩, htidy, hretractable⟩ :=
    Command.find?_toolNames name hname
  have hwell : WellFormed (shell.storeOf seat) := (hsound.safe _ (storeOf_mem hseat)).tree
  simp only [execute, hseat] at hexecute
  obtain rfl := Except.ok.inj hexecute
  obtain ⟨settled, hsettled, hstore, -, hsuccess⟩ := Interpreter.execute_of_words
    shell.interpreter seat.session (shell.storeOf seat) now draws hwords
  have hcwd : IsNormal (shell.interpreter.invocation name args settled now).cwd := by
    obtain ⟨entry, hentry, rfl⟩ := exists_of_seat? hseat
    rw [hsettled]
    exact Session.isNormal_settle (hsound.standing entry hentry)
  have hdispatch : shell.interpreter.dispatch name args settled (shell.storeOf seat) now draws
      = (Command.tool plan).run (shell.interpreter.invocation name args settled now)
          (shell.storeOf seat) draws := by
    simp only [Interpreter.dispatch, hcommands, hfind, Interpreter.invocation]
  have hcarried : shell.interpreter.carriedOut seat.session (shell.storeOf seat) line now
      = (Command.tool plan).carriedOut (shell.interpreter.invocation name args settled now)
          (shell.storeOf seat) := by
    simp only [Interpreter.carriedOut, hwords, hcommands, hfind, hsettled]
  rw [hdispatch] at hstore hsuccess
  dsimp only at hfailed
  rw [hsuccess] at hfailed
  have hscripts : ∀ script, (Command.tool plan).script?
      (shell.interpreter.invocation name args settled now) (shell.storeOf seat) = some script →
      ∀ effect ∈ script.effects, effect.Tidy :=
    fun script hscript => htidy _ _ script hcwd hwell hscript
  have hiff := Command.run_tool_traceless_iff hwell hscripts hfailed
  refine ⟨_, store?_advance hseat, ?_, fun hcareful => ?_⟩
  · rw [hstore, hcarried]
    exact hiff
  · rw [hstore, hiff]
    exact Command.recoverable_carriedOut hscripts
      (fun script hscript => hretractable hcareful _ _ script hcwd hwell hscript) hfailed

/-- A clone that runs out of nodes takes its directories back. -/
theorem failed_clone_traceless :
    ∃ shell executed seat after, Reachable shell ∧ shell.seat? 1 = some seat
      ∧ shell.execute 1 "git clone origin copy" ⟨1, 0⟩ [] = .ok executed
      ∧ executed.report.success = false ∧ executed.shell.store? 1 = some after
      ∧ Traceless (shell.storeOf seat) after := by
  obtain ⟨shell, hshell⟩ : ∃ shell : Shell, shell =
      (new .usual .shared { nodeCount := 10 } ⟨0, 0⟩).run [(⟨0, 0⟩, .create)] := ⟨_, rfl⟩
  have hreach : Reachable shell := ⟨_, _, _, _, _, _, _, hshell⟩
  have hseat : shell.seat? 1 = some ⟨{}, none⟩ := by
    rw [hshell]
    rfl
  have hwords : Text.words (Text.trim "git clone origin copy")
      = "git" :: ["clone", "origin", "copy"] := by decide +kernel
  obtain ⟨executed, hexecute⟩ :
      ∃ executed, shell.execute 1 "git clone origin copy" ⟨1, 0⟩ [] = .ok executed := by
    rw [hshell]
    exact ⟨_, rfl⟩
  have hfailed : executed.report.success = false := by
    rw [hshell] at hexecute
    obtain rfl := Except.ok.inj hexecute
    decide +kernel
  obtain ⟨after, hafter, -, htraceless⟩ :=
    failed_tool_traceless_iff hreach hseat hwords (by decide) hexecute hfailed
  exact ⟨shell, executed, _, after, hreach, hseat, hexecute, hfailed, hafter,
    htraceless ⟨by decide, by decide⟩⟩

/-- A directory that `npm install` was asked for under a path with `..` in it stays when the next
one fails. -/
theorem failed_npm_leaves_directory :
    ∃ shell executed seat after, Reachable shell ∧ shell.seat? 1 = some seat
      ∧ shell.execute 1 "npm install ../x aaaaaaaaaaaaaaaaaaaaaaaaaaaaaa" ⟨1, 0⟩ [] = .ok executed
      ∧ executed.report.success = false ∧ executed.shell.store? 1 = some after
      ∧ ¬ Traceless (shell.storeOf seat) after := by
  have hreach : Reachable ((new .usual .shared
      { nameLength := 20 } ⟨0, 0⟩).run [(⟨0, 0⟩, .create)]) := ⟨_, _, _, _, _, _, _, rfl⟩
  refine ⟨_, _, ⟨{}, none⟩, _, hreach, rfl, rfl, ?_, rfl, ?_⟩
  · decide +kernel
  · intro htraceless
    have hplace := htraceless "/home/user/x"
    revert hplace
    decide +kernel

end Shell

end VirtualShell
