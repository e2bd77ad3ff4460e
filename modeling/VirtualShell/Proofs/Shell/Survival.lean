import VirtualShell.Proofs.Shell.Line

/-!
# Only `rm` and `mv` lose a node

A simulated tool that fails takes back what it has done, and to take back a directory is to delete
it with all below it.  Copies and downloads overwrite what is in their way.  Still no node that a
session can see is lost by any of this: whatever the line, if it does not begin with `rm` or `mv`,
every node stays at its path, with its number, its kind and its time of creation.

The commands were proved gentle one by one; here a line is led back to the command that it names.
-/

namespace VirtualShell

open Time (Instant)

open VirtualShell.Path (IsNormal)

open Store (Retains Safe)

lemma Registry.gentle_of_find? {name : String} {command : Command}
    (hfind : Registry.builtin.find? name = some command) (hrm : name ≠ "rm") (hmv : name ≠ "mv") :
    command.Gentle := by
  rcases gentle_or_sound _ (mem_of_find? hfind) with hgentle | ⟨hloses, -⟩
  · exact hgentle
  · exact absurd hloses (not_or.mpr ⟨hrm, hmv⟩)

namespace Interpreter

variable {interpreter : Interpreter} {session : Session} {store : Store} {name : String}

/-- A name that is not registered changes nothing. -/
lemma retains_dispatch (args : List String) (now : Instant) (draws : Draws)
    (hcommands : interpreter.commands = Registry.builtin) (hcwd : IsNormal session.cwd)
    (hsafe : Safe store) (hrm : name ≠ "rm") (hmv : name ≠ "mv") :
    Retains store (interpreter.dispatch name args session store now draws).store := by
  cases hfind : Registry.builtin.find? name with
  | none =>
      simp only [dispatch, hcommands, hfind]
      exact .refl
  | some command =>
      rw [dispatch_of_find? args session store now draws hcommands hfind]
      have hcall : IsNormal (interpreter.invocation name args session now).cwd := hcwd
      have hedited := (Registry.gentle_of_find? hfind hrm hmv _ store draws hcall hsafe).1
      exact hedited.retains

end Interpreter

namespace Shell

variable {shell : Shell} {id : Nat} {seat : Seat}

/-- **No command but `rm` and `mv` loses a node.**  In every reachable shell, a line that begins
with neither leaves every node of its session's namespace where it was, whether it succeeds or
not. -/
theorem nodes_survive {line : String} {now : Instant} {draws : Draws} {executed : Executed}
    (hreach : shell.Reachable) (hseat : shell.seat? id = some seat)
    (hrm : (Text.words (Text.trim line)).head? ≠ some "rm")
    (hmv : (Text.words (Text.trim line)).head? ≠ some "mv")
    (hexecute : shell.execute id line now draws = .ok executed) :
    ∃ after, executed.shell.store? id = some after
      ∧ ∀ path node, (shell.storeOf seat).get? path = some node →
        ∃ kept, after.get? path = some kept ∧ kept.id = node.id ∧ kept.kind = node.kind
          ∧ kept.created = node.created := by
  cases hwords : Text.words (Text.trim line) with
  | nil =>
      simp only [execute, hseat] at hexecute
      obtain rfl := Except.ok.inj hexecute
      have hstore : (shell.interpreter.execute seat.session (shell.storeOf seat) line now
          draws).store = shell.storeOf seat := by simp [Interpreter.execute, hwords]
      refine ⟨_, store?_advance hseat, ?_⟩
      rw [hstore]
      exact Retains.refl
  | cons name args =>
      rw [hwords, List.head?_cons, Ne, Option.some_inj] at hrm hmv
      obtain ⟨settled, ran, rfl, rfl, hstore, -⟩ := execute_line hseat hwords hexecute
      have hcwd : IsNormal (seat.session.record (Text.trim line)).cwd := hreach.isNormal_cwd hseat
      exact ⟨_, hstore, Interpreter.retains_dispatch args now draws hreach.commands
        (Session.isNormal_settle hcwd) (hreach.safe hseat) hrm hmv⟩

/-- An installation in the directory above the home directory fails and is taken back, and the home
directory stays with all that is in it. -/
theorem nodes_survive_of_failed_npm :
    ∃ shell executed seat after, Reachable shell ∧ shell.seat? 1 = some seat
      ∧ shell.execute 1 "npm install ../../x aaaaaaaaaaaaaaaaaaaaaaaaaaaaaa" ⟨1, 0⟩ []
          = .ok executed
      ∧ executed.report.success = false ∧ executed.shell.store? 1 = some after
      ∧ ∃ kept, after.get? "/home/user/.bashrc" = some kept ∧ kept.id = 6 := by
  obtain ⟨shell, hshell⟩ : ∃ shell : Shell, shell =
      (new .usual .shared { nameLength := 20 } ⟨0, 0⟩).run [(⟨0, 0⟩, .create)] := ⟨_, rfl⟩
  have hreach : Reachable shell := ⟨_, _, _, _, _, _, _, hshell⟩
  have hseat : shell.seat? 1 = some ⟨{}, none⟩ := by
    rw [hshell]
    rfl
  obtain ⟨executed, hexecute⟩ : ∃ executed, shell.execute 1
      "npm install ../../x aaaaaaaaaaaaaaaaaaaaaaaaaaaaaa" ⟨1, 0⟩ [] = .ok executed := by
    rw [hshell]
    exact ⟨_, rfl⟩
  have hfailed : executed.report.success = false := by
    rw [hshell] at hexecute
    obtain rfl := Except.ok.inj hexecute
    decide +kernel
  have hfile : ((shell.storeOf ⟨{}, none⟩).get? "/home/user/.bashrc").map Node.id = some 6 := by
    rw [hshell]
    decide +kernel
  obtain ⟨node, hnode, hid⟩ := Option.map_eq_some_iff.mp hfile
  obtain ⟨after, hafter, hkeeps⟩ :=
    nodes_survive hreach hseat (by decide +kernel) (by decide +kernel) hexecute
  obtain ⟨kept, hkept, hsame, -⟩ := hkeeps _ node hnode
  exact ⟨shell, executed, _, after, hreach, hseat, hexecute, hfailed, hafter, kept, hkept,
    hsame.trans hid⟩

end Shell

end VirtualShell
