import VirtualShell.Proofs.Shell.Isolation
import VirtualShell.Proofs.Shell.WorkingDirectory

/-!
# The directory that a report names

A report names the directory that its session stands in.  A line with words settles behind its
command, so what it reports is a directory of the namespace as the command has left it.  A blank
line returns before anything settles and reports what the session had stored; and since the stored
directory belongs to a namespace that others may share, it can have been removed in the meantime.

So the report of a blank line is as good as the stored directory, and that is always good where
sessions have namespaces of their own: `Grounded` says that such a session stands in a directory of
its own namespace, and every history keeps it.
-/

namespace VirtualShell

open Time (Instant)

open VirtualShell.Path (IsNormal)

open Store (Safe)

/-! ## One line -/

namespace Interpreter

variable {interpreter : Interpreter} {session : Session} {store : Store} {line : String}

/-- A blank line reports where the session stands and leaves all as it is. -/
lemma execute_blank (interpreter : Interpreter) (session : Session) (store : Store)
    (now : Instant) (draws : Draws) (h : Text.trim line = "") :
    interpreter.execute session store line now draws
      = ⟨⟨.ok "", session.cwd⟩, session, store, draws, []⟩ := by
  have hwords : Text.words "" = [] := rfl
  simp only [execute, h, hwords]

/-- Any other line ends in a directory. -/
lemma execute_isDirectory (now : Instant) (draws : Draws)
    (hcommands : ∀ entry ∈ interpreter.commands, entry.2.Sound)
    (hcwd : IsNormal session.cwd) (hsafe : Safe store) (hline : Text.trim line ≠ "") :
    (interpreter.execute session store line now draws).store.isDirectory
      (interpreter.execute session store line now draws).session.cwd = true := by
  obtain ⟨name, args, hwords⟩ := Text.exists_words hline
  obtain ⟨settled, hsettled, hstore, hsession, -⟩ :=
    execute_of_words interpreter session store now draws hwords
  have hstart : IsNormal settled.cwd := by
    rw [hsettled]
    exact Session.isNormal_settle hcwd
  obtain ⟨hafter, hend⟩ := dispatch_sound name args now draws hcommands hstart hsafe
  rw [hstore, hsession, Session.settle_eq]
  exact (Session.nearest_nearestDirectory hafter.tree hend).present

lemma execute_currentDirectory (interpreter : Interpreter) (session : Session) (store : Store)
    (line : String) (now : Instant) (draws : Draws) :
    (interpreter.execute session store line now draws).report.currentDirectory
      = (interpreter.execute session store line now draws).session.cwd := by
  simp only [execute]
  split <;> rfl

end Interpreter

namespace Shell

variable {shell : Shell} {now : Instant} {id : Nat} {seat : Seat}

/-! ## Namespaces of one's own -/

/-- Where sessions have namespaces of their own, each stands in a directory of its own. -/
def Grounded (shell : Shell) : Prop :=
  shell.isolation = .perSession → ∀ entry ∈ shell.seats,
    ∃ own, entry.2.ownStore = some own ∧ own.isDirectory entry.2.session.cwd = true

lemma grounded_create (h : Grounded shell) : Grounded (shell.create now).2.1 := by
  intro hisolation entry hentry
  rcases List.mem_append.mp hentry with hold | hnew
  · exact h hisolation entry hold
  · have hhome : (Store.new shell.limits now).isDirectory Path.home = true := rfl
    have hown : shell.isolation = .perSession := hisolation
    rw [List.mem_singleton.mp hnew]
    exact ⟨.new shell.limits now, by simp [hown], hhome⟩

lemma grounded_close (h : Grounded shell) : Grounded (shell.close id).2.1 := by
  simp only [close]
  split
  · exact fun hisolation entry hentry => h hisolation entry (List.mem_of_mem_filter hentry)
  · exact h

lemma grounded_advance {session : Session} {store : Store} (h : Grounded shell)
    (hseat : shell.seat? id = some seat)
    (hcwd : shell.isolation = .perSession → store.isDirectory session.cwd = true) :
    Grounded (shell.advance id seat session store) := by
  obtain ⟨seats, commons, hframe⟩ := frame_advance shell id seat session store
  intro hisolation entry hentry
  have hown : shell.isolation = .perSession := by
    rw [hframe] at hisolation
    exact hisolation
  rcases mem_seats_advance hentry with ⟨hsession, hstore⟩ | hbefore
  · obtain ⟨before, hbefore, rfl⟩ := exists_of_seat? hseat
    obtain ⟨own, howns, -⟩ := h hown before hbefore
    exact ⟨store, by rw [hstore, howns, Option.map_some], hsession ▸ hcwd hown⟩
  · exact h hown entry hbefore

lemma Grounded.isDirectory (h : Grounded shell) (hisolation : shell.isolation = .perSession)
    (hseat : shell.seat? id = some seat) :
    (shell.storeOf seat).isDirectory seat.session.cwd = true := by
  obtain ⟨entry, hentry, rfl⟩ := exists_of_seat? hseat
  obtain ⟨own, howns, hdir⟩ := h hisolation entry hentry
  rw [storeOf, howns]
  exact hdir

lemma grounded_after {step : Step} (hsound : Sound shell) (h : Grounded shell) :
    Grounded (shell.after now step) := by
  cases step with
  | create => exact grounded_create h
  | close id => exact grounded_close h
  | execute id line draws =>
      simp only [after, execute]
      cases hseat : shell.seat? id with
      | none => exact h
      | some seat =>
          refine grounded_advance h hseat fun hisolation => ?_
          by_cases hline : Text.trim line = ""
          · rw [Interpreter.execute_blank _ _ _ _ _ hline]
            exact h.isDirectory hisolation hseat
          · obtain ⟨entry, hentry, rfl⟩ := exists_of_seat? hseat
            exact Interpreter.execute_isDirectory now draws hsound.commands
              (hsound.standing entry hentry) (hsound.safe _ (storeOf_mem hseat)) hline

lemma grounded_run {steps : List (Instant × Step)} (hsound : Sound shell) (h : Grounded shell) :
    Grounded (shell.run steps) := by
  induction steps generalizing shell with
  | nil => exact h
  | cons entry rest ih => exact ih (sound_after hsound) (grounded_after hsound h)

lemma Reachable.grounded (h : Reachable shell) : Grounded shell := by
  obtain ⟨hostname, policy, naming, isolation, limits, start, steps, rfl⟩ := h
  exact grounded_run (sound_new rfl) fun _ entry hentry => absurd hentry (by simp [new])

/-! ## Every line -/

/-- **When a report names a directory that is there.**  A live session is always answered.  Its
report names a directory of its namespace if the line is not blank, or else if the directory that it
has stored is still there; with a namespace of its own it always does. -/
theorem reported_directory_iff (line : String) (now : Instant) (draws : Draws)
    (hreach : shell.Reachable) (hseat : shell.seat? id = some seat) :
    ∃ executed after, shell.execute id line now draws = .ok executed
      ∧ executed.shell.store? id = some after
      ∧ (after.isDirectory executed.report.currentDirectory = true
          ↔ Text.trim line ≠ ""
            ∨ (shell.storeOf seat).isDirectory seat.session.cwd = true)
      ∧ (shell.isolation = .perSession →
          after.isDirectory executed.report.currentDirectory = true) := by
  have hexecute : ∃ executed, shell.execute id line now draws = .ok executed := by
    simp only [execute, hseat]
    exact ⟨_, rfl⟩
  obtain ⟨executed, hexecute⟩ := hexecute
  have hdone := hexecute
  simp only [execute, hseat] at hdone
  obtain rfl := Except.ok.inj hdone
  refine ⟨_, _, hexecute, store?_advance hseat, ?_⟩
  simp only [Interpreter.execute_currentDirectory]
  by_cases hline : Text.trim line = ""
  · rw [Interpreter.execute_blank _ _ _ _ _ hline]
    have hstored : shell.isolation = .perSession →
        (shell.storeOf seat).isDirectory seat.session.cwd = true :=
      fun hisolation => hreach.grounded.isDirectory hisolation hseat
    simpa [hline] using hstored
  · have hdir := Interpreter.execute_isDirectory now draws hreach.sound.commands
      (hreach.isNormal_cwd hseat) (hreach.safe hseat) hline
    exact ⟨iff_of_true hdir (Or.inl hline), fun _ => hdir⟩

/-- A session whose directory another has removed is back in a directory with its next word. -/
theorem reported_directory_iff_of_removed :
    ∃ shell executed after, Reachable shell
      ∧ shell = (new .usual .shared {} ⟨0, 0⟩).run
          [(⟨0, 0⟩, .create), (⟨0, 0⟩, .create), (⟨1, 0⟩, .execute 1 "cd Documents" []),
           (⟨2, 0⟩, .execute 2 "rm -r Documents" [])]
      ∧ shell.execute 1 "pwd" ⟨3, 0⟩ [] = .ok executed
      ∧ executed.shell.store? 1 = some after
      ∧ after.isDirectory executed.report.currentDirectory = true := by
  obtain ⟨shell, hshell⟩ : ∃ shell : Shell, shell = (new .usual .shared {} ⟨0, 0⟩).run
        [(⟨0, 0⟩, .create), (⟨0, 0⟩, .create), (⟨1, 0⟩, .execute 1 "cd Documents" []),
         (⟨2, 0⟩, .execute 2 "rm -r Documents" [])] := ⟨_, rfl⟩
  have hreach : Reachable shell := ⟨_, _, _, _, _, _, _, hshell⟩
  have hlive : (shell.seat? 1).isSome = true := by
    rw [hshell]
    decide +kernel
  obtain ⟨seat, hseat⟩ := Option.isSome_iff_exists.mp hlive
  obtain ⟨executed, after, hexecute, hafter, hiff, -⟩ :=
    reported_directory_iff "pwd" ⟨3, 0⟩ [] hreach hseat
  exact ⟨shell, executed, after, hreach, hshell, hexecute, hafter, hiff.mpr (Or.inl (by decide))⟩

/-- The same session types nothing instead, and the report names the directory that is gone. -/
theorem blank_line_reports_removed_directory :
    ∃ shell executed after, Reachable shell
      ∧ shell = (new .usual .shared {} ⟨0, 0⟩).run
          [(⟨0, 0⟩, .create), (⟨0, 0⟩, .create), (⟨1, 0⟩, .execute 1 "cd Documents" []),
           (⟨2, 0⟩, .execute 2 "rm -r Documents" [])]
      ∧ shell.execute 1 "" ⟨3, 0⟩ [] = .ok executed
      ∧ executed.shell.store? 1 = some after
      ∧ after.isDirectory executed.report.currentDirectory = false := by
  refine ⟨_, _, _, ⟨_, _, _, _, _, _, _, rfl⟩, rfl, rfl, rfl, ?_⟩
  decide +kernel

end Shell

end VirtualShell
