import VirtualShell.Proofs.Command.Chmod
import VirtualShell.Proofs.Shell.Line

/-!
# Changes of mode in a shell

What `chmod` leaves in the namespace of a session, in every shell that can be reached.  A text that
is no mode is none for any node, so a line with it changes nothing; a line with a mode changes every
operand that is there, whatever else is missing, and the same line again would change no
permissions.
-/

namespace VirtualShell.Shell

open Time (Instant)

open Command (Changed)

/-- **A mode is for all operands or for none.**  A text is a mode for every node or for no node, and
a mode applied twice is a mode applied once.  A line that begins with `chmod` changes nothing and
fails if its mode is none, and else gives every operand that is there its new permissions; it
succeeds if none is missing. -/
theorem chmod_all_or_nothing :
    (∀ mode, Mode.Refused mode ∨ Mode.Settles mode)
      ∧ ∀ {shell : Shell} {id : Nat} {seat : Seat} {line mode : String} {operands : List String}
          {now : Instant} {draws : Draws} {executed : Executed}, shell.Reachable →
          shell.seat? id = some seat → Text.words (Text.trim line) = "chmod" :: mode :: operands →
          shell.execute id line now draws = .ok executed →
            ∃ call after, call = shell.called seat line "chmod" (mode :: operands) now
              ∧ executed.shell.store? id = some after
              ∧ (Mode.Refused mode ∧ executed.report.success = false ∧ after = shell.storeOf seat
                ∨ Mode.Settles mode
                  ∧ Changed mode (operands.map call.resolve) now (shell.storeOf seat) after
                  ∧ (executed.report.success = true ↔ operands ≠ []
                    ∧ ∀ path ∈ operands.map call.resolve,
                        (shell.storeOf seat).contains path = true)) := by
  refine ⟨fun mode => (Mode.refused_or_settles mode).imp And.right And.right, ?_⟩
  intro shell id seat line mode operands now draws executed hreach hseat hwords hexecute
  have hfind : Registry.builtin.find? "chmod" = some Command.chmod := rfl
  obtain ⟨ran, rfl, hstore, -, hreport, -⟩ :=
    execute_builtin hreach hseat hwords hfind hexecute
  refine ⟨_, _, rfl, hstore, ?_⟩
  rw [hreport]
  exact Command.chmod_changed _ "chmod" draws rfl

/-- An operand is missing and the clauses contradict each other: the others have the rights that the
last clauses decide, and the line fails. -/
theorem chmod_all_or_nothing_of_missing :
    ∃ shell executed after, Reachable shell
      ∧ shell.execute 1 "chmod a=r,u+x,g-r a missing Documents" ⟨2, 0⟩ [] = .ok executed
      ∧ executed.shell.store? 1 = some after ∧ executed.report.success = false
      ∧ (after.get? "/home/user/a").map Node.permissions = some "-r-x---r--"
      ∧ (after.get? "/home/user/Documents").map Node.permissions = some "dr-x---r--" := by
  obtain ⟨shell, hshell⟩ : ∃ shell : Shell, shell =
      (new .usual .shared {} ⟨0, 0⟩).run
        [(⟨0, 0⟩, .create), (⟨1, 0⟩, .execute 1 "touch a" [])] := ⟨_, rfl⟩
  have hreach : Reachable shell := ⟨_, _, _, _, _, _, _, hshell⟩
  obtain ⟨line, hline⟩ : ∃ line, line = "chmod a=r,u+x,g-r a missing Documents" := ⟨_, rfl⟩
  obtain ⟨args, hargs⟩ : ∃ args, args = ["a", "missing", "Documents"] := ⟨_, rfl⟩
  have hfacts : (shell.seat? 1).map (fun seat =>
      (args.map (shell.called seat line "chmod" ("a=r,u+x,g-r" :: args) ⟨2, 0⟩).resolve,
        ((shell.storeOf seat).get? "/home/user/a").map fun node =>
          (node.permissions, node.isDirectory),
        (shell.storeOf seat).get? "/home/user/missing",
        ((shell.storeOf seat).get? "/home/user/Documents").map fun node =>
          (node.permissions, node.isDirectory)))
      = some (["/home/user/a", "/home/user/missing", "/home/user/Documents"],
        some ("-rw-r--r--", false), none, some ("drwxr-xr-x", true)) := by
    rw [hshell, hline, hargs]
    decide +kernel
  obtain ⟨seat, hseat, hfacts⟩ := Option.map_eq_some_iff.mp hfacts
  simp only [Prod.mk.injEq, Option.map_eq_some_iff] at hfacts
  obtain ⟨hplaces, ⟨file, hfile, hfilemode, hisfile⟩, hmissing,
    directory, hdirectory, hdirectorymode, hisdirectory⟩ := hfacts
  obtain ⟨executed, hexecute, -⟩ := exists_executed line ⟨2, 0⟩ [] hseat
  have hwords : Text.words (Text.trim line) = "chmod" :: "a=r,u+x,g-r" :: args := by
    rw [hline, hargs]
    decide +kernel
  obtain ⟨call, after, rfl, hafter, ⟨hrefused, -⟩ | ⟨-, hchanged, hsuccess⟩⟩ :=
    chmod_all_or_nothing.2 hreach hseat hwords hexecute
  · have hmode : changedPermissions? "" false "a=r,u+x,g-r" ≠ none := by decide
    exact absurd (hrefused "" false) hmode
  rw [hplaces] at hchanged hsuccess
  have hchange : changedPermissions? "-rw-r--r--" false "a=r,u+x,g-r" = some "-r-x---r--" ∧
      changedPermissions? "drwxr-xr-x" true "a=r,u+x,g-r" = some "dr-x---r--" := by decide
  refine ⟨shell, executed, after, hreach, hline ▸ hexecute, hafter, ?_, ?_, ?_⟩
  · rw [← Bool.not_eq_true, hsuccess]
    rintro ⟨-, hall⟩
    have hthere := hall "/home/user/missing" (by simp)
    simp [Store.contains, hmissing] at hthere
  · obtain ⟨permissions, hpermissions, hget⟩ := hchanged.named _ (by simp) file hfile
    rw [hfilemode, hisfile, hchange.1, Option.some_inj] at hpermissions
    rw [hget, ← hpermissions]
    rfl
  · obtain ⟨permissions, hpermissions, hget⟩ := hchanged.named _ (by simp) directory hdirectory
    rw [hdirectorymode, hisdirectory, hchange.2, Option.some_inj] at hpermissions
    rw [hget, ← hpermissions]
    rfl

end VirtualShell.Shell
