import VirtualShell.Proofs.Shell.Line

/-!
# The working directory

A working directory can vanish: a session may remove it, and so may another that shares the
namespace.  The shell looks for the nearest directory that is left twice for every line, before the
command in the namespace as it finds it and behind the command in the namespace as it was left.

`Store.Nearest` says what is to be found: of the path and all its ancestors, the longest that is a
directory.  Going up ends there, for each step up is shorter and at the top stands the root, which
no operation removes (`exists_find?_go`).

Only `cd` names another directory, and only if it succeeds (`Interpreter.dispatch_cwd_cases`).  So
every line ends in the nearest directory of where it began, or of where `cd` has gone
(`Shell.stands_in_nearest`).
-/

namespace VirtualShell

open Time (Instant)

open VirtualShell.Path (IsNormal)

open Store (WellFormed)

/-! ## The nearest directory -/

/-- The longest directory that is a path or one of its ancestors. -/
structure Store.Nearest (store : Store) (path dir : String) : Prop where
  above : path = dir ∨ Path.isBelow path dir = true
  present : store.isDirectory dir = true
  longest : ∀ other, path = other ∨ Path.isBelow path other = true →
    store.isDirectory other = true → other.length ≤ dir.length

variable {store : Store} {path dir up : String}

namespace Store.Nearest

lemma self (h : WellFormed store) (hdir : store.isDirectory dir = true) :
    store.Nearest dir dir := by
  have hnormal := h.isNormal_of_isDirectory hdir
  refine ⟨Or.inl rfl, hdir, ?_⟩
  rintro other (rfl | hbelow) hother
  · exact Nat.le_refl _
  · exact Nat.le_of_lt
      (Path.length_lt_of_isBelow hnormal (h.isNormal_of_isDirectory hother) hbelow)

/-- A path that is no directory has the nearest one of its parent. -/
lemma of_parent (h : WellFormed store) (hpath : IsNormal path) (hup : Path.parent? path = some up)
    (hnot : store.isDirectory path = false) (hnear : store.Nearest up dir) :
    store.Nearest path dir := by
  refine ⟨Or.inr ?_, hnear.present, ?_⟩
  · rw [Path.isBelow_iff_parent hpath (h.isNormal_of_isDirectory hnear.present)]
    exact ⟨up, hup, hnear.above⟩
  · rintro other (rfl | hbelow) hother
    · rw [hnot] at hother
      exact Bool.noConfusion hother
    · obtain ⟨found, hfound, hin⟩ :=
        (Path.isBelow_iff_parent hpath (h.isNormal_of_isDirectory hother)).mp hbelow
      rw [hup, Option.some_inj] at hfound
      exact hnear.longest other (hfound ▸ hin) hother

end Store.Nearest

namespace Session

/-- Going up finds the nearest directory, by induction on the number of steps, which the length of
the path bounds. -/
lemma exists_find?_go (h : WellFormed store) (n : Nat) (hpath : IsNormal path)
    (hlength : path.length ≤ n) :
    ∃ dir, (Path.selfAndAncestors.go n path).find? store.isDirectory = some dir
      ∧ store.Nearest path dir := by
  induction n generalizing path with
  | zero =>
      have hempty : path = "" := by simpa using hlength
      rw [hempty] at hpath
      exact absurd hpath (by decide)
  | succ n ih =>
      simp only [Path.selfAndAncestors.go]
      cases hdir : store.isDirectory path with
      | true =>
          refine ⟨path, ?_, .self h hdir⟩
          cases Path.parent? path <;> simp [hdir]
      | false =>
          -- the root is a directory, so there is one more step up
          have hroot : path ≠ "/" := by
            rintro rfl
            rw [h.root] at hdir
            exact Bool.noConfusion hdir
          obtain ⟨up, hup, hnormal, -⟩ := hpath.exists_parent hroot
          have hbelow := (Path.isBelow_iff_parent hpath hnormal).mpr ⟨up, hup, Or.inl rfl⟩
          have hshorter := Path.length_lt_of_isBelow hpath hnormal hbelow
          obtain ⟨dir, hfind, hnear⟩ := ih hnormal (by omega)
          exact ⟨dir, by simp [hup, hdir, hfind], .of_parent h hpath hup hdir hnear⟩

lemma nearest_nearestDirectory (h : WellFormed store) (hpath : IsNormal path) :
    store.Nearest path (nearestDirectory store path) := by
  obtain ⟨dir, hfind, hnear⟩ := exists_find?_go h path.length hpath (Nat.le_refl _)
  have hdir : nearestDirectory store path = dir := by
    simp only [nearestDirectory, Path.selfAndAncestors, hfind]
  rwa [hdir]

/-- A directory is the nearest one to itself. -/
lemma nearestDirectory_of_isDirectory (hdir : store.isDirectory dir = true) :
    nearestDirectory store dir = dir := by
  obtain ⟨more, hmore⟩ : ∃ more, Path.selfAndAncestors dir = dir :: more := by
    rw [Path.selfAndAncestors]
    cases dir.length with
    | zero => exact ⟨[], rfl⟩
    | succ n =>
        rw [Path.selfAndAncestors.go]
        cases Path.parent? dir with
        | none => exact ⟨[], rfl⟩
        | some up => exact ⟨_, rfl⟩
  simp only [nearestDirectory, hmore, List.find?_cons, hdir]

/-- Settling moves a session and does no more. -/
lemma settle_eq (session : Session) (store : Store) :
    (session.settle store).1 = { session with cwd := nearestDirectory store session.cwd } := by
  simp only [settle]
  split
  · rename_i hsame
    rw [hsame]
  · rfl

/-- A session whose directory is there stays as it is. -/
lemma settle_of_isDirectory {session : Session} (hdir : store.isDirectory session.cwd = true) :
    (session.settle store).1 = session := by
  rw [settle_eq, nearestDirectory_of_isDirectory hdir]

end Session

/-! ## Who names a directory -/

/-- The directory that the operands of `cd` name, wherever it leads. -/
def Session.destination? (session : Session) : List String → Option String
  | [] => some Path.home
  | [operand] => if operand = "-" then session.previous else some (session.resolve operand)
  | _ => none

lemma Path.resolve_home (cwd : String) : resolve cwd home = home := by
  have habsolute : absolute cwd home = home := by simp [absolute, home]
  have hhome : IsNormal home := by decide
  rw [resolve, habsolute]
  exact hhome

namespace Command

variable {call : Invocation} {draws : Draws}

/-- Whether a command may change the working directory. -/
def navigates : Command → Bool
  | navigate _ => true
  | _ => false

lemma run_session {command : Command} (h : command.navigates = false) :
    (command.run call store draws).session = call.session := by
  cases command with
  | inspect answer => rfl
  | monitor answer => rfl
  | navigate answer => simp [navigates] at h
  | tool plan => exact run_tool_session
  | edit answer => rfl

/-- `cd` succeeds and enters the directory that it was told, or fails and stays. -/
lemma run_cd_cases (call : Invocation) (store : Store) (draws : Draws) :
    (∃ dir shown, call.session.destination? call.args = some dir
      ∧ store.isDirectory dir = true
      ∧ cd.run call store draws = ⟨.ok shown, call.session.enter dir, store, draws, []⟩)
    ∨ ∃ complaint, cd.run call store draws
        = ⟨.failed complaint, call.session, store, draws, []⟩ := by
  cases hargs : call.args with
  | nil =>
      have hhome : call.resolve Path.home = Path.home := Path.resolve_home call.cwd
      rcases cdTo_cases call store Path.home with ⟨dir, shown, hdir, hthere, hcd⟩ | ⟨text, hcd⟩
      · rw [if_neg (by decide), hhome] at hdir
        exact Or.inl ⟨dir, shown, hdir, hthere, by simp only [cd, run, hargs, hcd]⟩
      · exact Or.inr ⟨text, by simp only [cd, run, hargs, hcd]⟩
  | cons operand rest =>
      cases rest with
      | nil =>
          rcases cdTo_cases call store operand with ⟨dir, shown, hdir, hthere, hcd⟩ | ⟨text, hcd⟩
          · exact Or.inl ⟨dir, shown, hdir, hthere, by simp only [cd, run, hargs, hcd]⟩
          · exact Or.inr ⟨text, by simp only [cd, run, hargs, hcd]⟩
      | cons _ _ => exact Or.inr ⟨_, by simp only [cd, run, hargs]; rfl⟩

/-- `cd` enters a directory that is there, unless it is called like the way back. -/
lemma run_cd_of_isDirectory {operand : String} (draws : Draws) (hargs : call.args = [operand])
    (hback : operand ≠ "-") (hthere : store.isDirectory (call.resolve operand) = true) :
    cd.run call store draws
      = ⟨.ok "", call.session.enter (call.resolve operand), store, draws, []⟩ := by
  obtain ⟨node, hnode, hkind⟩ := Store.isDirectory_iff.mp hthere
  have hdir : node.isDirectory = true := by
    simp [Node.isDirectory, Node.kind, hkind, Body.kind]
  simp only [cd, run, hargs, cdTo, cdTarget, if_neg hback, hnode, hdir, if_true]

end Command

/-- No other built-in command changes the directory. -/
lemma Registry.run_session {name : String} {command : Command} {call : Invocation} {draws : Draws}
    (hfind : Registry.builtin.find? name = some command) (hname : name ≠ "cd") :
    (command.run call store draws).session = call.session := by
  have hall : ∀ entry ∈ Registry.builtin, entry.2.navigates = true → entry.1 = "cd" := by decide
  refine Command.run_session (Bool.eq_false_iff.mpr fun hnavigates => hname ?_)
  exact hall _ (mem_of_find? hfind) hnavigates

/-- Where a command leaves its session: where `cd` has led, or where it stood. -/
lemma Interpreter.dispatch_cwd_cases {interpreter : Interpreter} (name : String)
    (args : List String) (session : Session) (store : Store) (now : Instant) (draws : Draws)
    (hcommands : interpreter.commands = Registry.builtin) :
    let ran := interpreter.dispatch name args session store now draws
    (name = "cd" ∧ (ran.verdict.toReply name).success = true
        ∧ session.destination? args = some ran.session.cwd)
      ∨ (name ≠ "cd" ∨ (ran.verdict.toReply name).success = false)
        ∧ ran.session.cwd = session.cwd := by
  intro ran
  by_cases hname : name = "cd"
  · subst hname
    have hfind : Registry.builtin.find? "cd" = some Command.cd := rfl
    have hran : ran = _ := dispatch_of_find? args session store now draws hcommands hfind
    rcases Command.run_cd_cases (interpreter.invocation "cd" args session now) store draws with
      ⟨dir, shown, hdir, -, hcd⟩ | ⟨complaint, hcd⟩
    · rw [hran, hcd]
      exact Or.inl ⟨rfl, rfl, hdir⟩
    · rw [hran, hcd]
      exact Or.inr ⟨Or.inr rfl, rfl⟩
  · refine Or.inr ⟨Or.inl hname, ?_⟩
    cases hfind : Registry.builtin.find? name with
    | none => simp only [ran, dispatch, hcommands, hfind]
    | some command =>
        have hran : ran = _ := dispatch_of_find? args session store now draws hcommands hfind
        rw [hran, Registry.run_session hfind hname]
        rfl

namespace Shell

variable {shell : Shell} {id : Nat} {seat : Seat}

/-- A command is called in the nearest directory to where its session stood. -/
lemma called_cwd (shell : Shell) (seat : Seat) (line name : String) (args : List String)
    (now : Instant) : (shell.called seat line name args now).cwd
      = Session.nearestDirectory (shell.storeOf seat) seat.session.cwd :=
  congrArg Session.cwd (Session.settle_eq _ _)

lemma called_cwd_of_isDirectory (hcwd : (shell.storeOf seat).isDirectory seat.session.cwd = true)
    (line name : String) (args : List String) (now : Instant) :
    (shell.called seat line name args now).cwd = seat.session.cwd := by
  rw [called_cwd, Session.nearestDirectory_of_isDirectory hcwd]

lemma isDirectory_called_cwd (hreach : shell.Reachable) (hseat : shell.seat? id = some seat)
    (line name : String) (args : List String) (now : Instant) :
    (shell.storeOf seat).isDirectory (shell.called seat line name args now).cwd = true := by
  rw [called_cwd]
  exact (Session.nearest_nearestDirectory (hreach.safe hseat).tree
    (hreach.isNormal_cwd hseat)).present

/-- A command that takes no node away leaves its session in the directory in which it was called,
if it is not `cd`. -/
lemma execute_gentle {line name : String} {args : List String} {command : Command} {now : Instant}
    {draws : Draws} {executed : Executed} (hreach : shell.Reachable)
    (hseat : shell.seat? id = some seat) (hwords : Text.words (Text.trim line) = name :: args)
    (hfind : Registry.builtin.find? name = some command) (hgentle : command.Gentle)
    (hname : name ≠ "cd") (hexecute : shell.execute id line now draws = .ok executed) :
    ∃ ran after, ran = command.run (shell.called seat line name args now) (shell.storeOf seat) draws
      ∧ executed.report = ⟨ran.verdict.toReply name, (shell.called seat line name args now).cwd⟩
      ∧ executed.shell.seat? id = some after ∧ executed.shell.storeOf after = ran.store
      ∧ after.session.cwd = (shell.called seat line name args now).cwd
      ∧ ran.store.isDirectory (shell.called seat line name args now).cwd = true := by
  obtain ⟨ran, hran, hstore, hcwd, hreport, hnormal⟩ :=
    execute_builtin hreach hseat hwords hfind hexecute
  have hsafe := hreach.safe hseat
  have hdir := isDirectory_called_cwd hreach hseat line name args now
  have hretains := (hgentle _ _ draws hnormal hsafe).1.retains
  have hsession : ran.session = (shell.called seat line name args now).session :=
    hran ▸ Registry.run_session hfind hname
  rw [← hran] at hretains
  have hthere := hretains.isDirectory hdir
  rw [hsession, Session.settle_of_isDirectory hthere] at hreport
  obtain ⟨after, hafter, hsame, hstands⟩ := exists_seat hstore hcwd
  rw [hreport] at hstands
  exact ⟨ran, after, hran, hreport, hafter, hsame, hstands, hthere⟩

/-- **A session stands in the nearest directory.**  Whatever has become of the namespace of a
session: the command of a line runs in the nearest directory of where the session stood, and the
line ends in the nearest one, in the namespace that the command has left, of where `cd` has gone or
else of where the command has run.  That is what the session keeps and what the report says. -/
theorem stands_in_nearest {line : String} {now : Instant} {draws : Draws} {executed : Executed}
    (hreach : shell.Reachable) (hseat : shell.seat? id = some seat) (hline : Text.trim line ≠ "")
    (hexecute : shell.execute id line now draws = .ok executed) :
    ∃ name args started ran, Text.words (Text.trim line) = name :: args
      ∧ started = { seat.session.record (Text.trim line) with cwd := started.cwd }
      ∧ (shell.storeOf seat).Nearest seat.session.cwd started.cwd
      ∧ ran = shell.interpreter.dispatch name args started (shell.storeOf seat) now draws
      ∧ executed.report.toReply = ran.verdict.toReply name
      ∧ executed.shell.store? id = some ran.store
      ∧ executed.shell.cwd id = .ok executed.report.currentDirectory
      ∧ (name = "cd" → executed.report.success = true →
          ∃ target, started.destination? args = some target
            ∧ ran.store.Nearest target executed.report.currentDirectory)
      ∧ (name ≠ "cd" ∨ executed.report.success = false →
          ran.store.Nearest started.cwd executed.report.currentDirectory) := by
  obtain ⟨name, args, hwords⟩ := Text.exists_words hline
  obtain ⟨started, ran, hstarted, hran, hstore, hcwd, hreport⟩ :=
    execute_line hseat hwords hexecute
  have hnormal : IsNormal seat.session.cwd := hreach.isNormal_cwd hseat
  have hsafe := hreach.safe hseat
  rw [Session.settle_eq] at hstarted
  have hbegin : (shell.storeOf seat).Nearest seat.session.cwd started.cwd :=
    hstarted ▸ Session.nearest_nearestDirectory hsafe.tree hnormal
  have hstand : IsNormal started.cwd := hsafe.tree.isNormal_of_isDirectory hbegin.present
  obtain ⟨hafter, hend⟩ :=
    Interpreter.dispatch_sound name args now draws hreach.sound.commands hstand hsafe
  rw [← hran] at hafter hend
  have hlast : ran.store.Nearest ran.session.cwd executed.report.currentDirectory := by
    rw [hreport, Session.settle_eq]
    exact Session.nearest_nearestDirectory hafter.tree hend
  have hreply : executed.report.toReply = ran.verdict.toReply name := by rw [hreport]
  refine ⟨name, args, started, ran, hwords, by rw [hstarted], hbegin, hran, hreply, hstore, hcwd,
    ?_⟩
  have hled := Interpreter.dispatch_cwd_cases name args started (shell.storeOf seat) now draws
    hreach.commands
  simp only [← hran, ← hreply] at hled
  rcases hled with ⟨hname, hdone, htarget⟩ | ⟨hstays, hsame⟩
  · exact ⟨fun _ _ => ⟨_, htarget, hlast⟩, by simp [hname, hdone]⟩
  · rw [hsame] at hlast
    refine ⟨fun hname hdone => ?_, fun _ => hlast⟩
    rcases hstays with hother | hfailed
    · exact absurd hname hother
    · rw [hdone] at hfailed
      exact Bool.noConfusion hfailed

/-- Of two sessions one stands in a directory that the other removes. -/
theorem stands_in_nearest_of_removed :
    ∃ shell executed seat start after, Reachable shell ∧ shell.seat? 1 = some seat
      ∧ seat.session.cwd = "/home/user/a"
      ∧ shell.execute 1 "pwd" ⟨4, 0⟩ [] = .ok executed
      ∧ (shell.storeOf seat).Nearest seat.session.cwd start
      ∧ executed.shell.store? 1 = some after
      ∧ after.Nearest start executed.report.currentDirectory
      ∧ executed.shell.cwd 1 = .ok "/home/user" := by
  obtain ⟨shell, hshell⟩ : ∃ shell : Shell, shell = (new .usual .shared {} ⟨0, 0⟩).run
        [(⟨0, 0⟩, .create), (⟨0, 0⟩, .create), (⟨1, 0⟩, .execute 1 "mkdir a" []),
         (⟨2, 0⟩, .execute 1 "cd a" []), (⟨3, 0⟩, .execute 2 "rm -r a" [])] := ⟨_, rfl⟩
  have hreach : Reachable shell := ⟨_, _, _, _, _, _, _, hshell⟩
  have hstood : (shell.seat? 1).map (fun seat => seat.session.cwd) = some "/home/user/a" := by
    rw [hshell]
    decide +kernel
  obtain ⟨seat, hseat, hcwd⟩ := Option.map_eq_some_iff.mp hstood
  obtain ⟨executed, hexecute⟩ : ∃ executed, shell.execute 1 "pwd" ⟨4, 0⟩ [] = .ok executed := by
    simp only [execute, hseat]
    exact ⟨_, rfl⟩
  have hreport : (shell.execute 1 "pwd" ⟨4, 0⟩ []).toOption.map
      (fun executed => executed.report.currentDirectory) = some "/home/user" := by
    rw [hshell]
    decide +kernel
  have hplace : executed.report.currentDirectory = "/home/user" := by
    simpa [hexecute, Except.toOption] using hreport
  obtain ⟨name, args, started, ran, hwords, -, hbegin, -, -, hstore, hstands, -, hstays⟩ :=
    stands_in_nearest hreach hseat (by decide) hexecute
  have hpwd : Text.words (Text.trim "pwd") = ["pwd"] := by decide +kernel
  have hname : name ≠ "cd" := by
    rw [hpwd] at hwords
    rw [← (List.cons.inj hwords).1]
    decide
  rw [hplace] at hstands
  exact ⟨shell, executed, seat, started.cwd, ran.store, hreach, hseat, hcwd, hexecute, hbegin,
    hstore, hstays (Or.inl hname), hstands⟩

end Shell

end VirtualShell
