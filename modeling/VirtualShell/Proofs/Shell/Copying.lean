import VirtualShell.Proofs.Command.Copy
import VirtualShell.Proofs.Shell.Line

/-!
# Copies in a shell

What `cp` leaves in the namespace of a session, in every shell that can be reached: a subtree that
is copied whole, or in part, over whatever has been at its images, and nothing else.  The target may
lie above the source; then the copy lands on the subtree that it is made from.
-/

namespace VirtualShell.Shell

open Time (Instant)

open VirtualShell.Path (IsNormal)

open Command (Copying Copied)

variable {shell : Shell} {id : Nat} {seat : Seat}

/-- **A copy is exact.**  A line that begins with `cp` and whose operands pass leaves copies of the
source and of all below it if it succeeds, and in any case all else as it was. -/
theorem copy_exact {line target : String} {args : List String} {source : Node} {now : Instant}
    {draws : Draws} {executed : Executed} (hreach : shell.Reachable)
    (hseat : shell.seat? id = some seat)
    (hwords : Text.words (Text.trim line) = "cp" :: args)
    (hcopying : Copying (shell.called seat line "cp" args now) (shell.storeOf seat) source target)
    (hexecute : shell.execute id line now draws = .ok executed) :
    ∃ after, executed.shell.store? id = some after
      ∧ Copied (shell.storeOf seat) after source.path target (executed.report.success = true) := by
  obtain ⟨settled, ran, hsettled, rfl, hstore, -, hreport⟩ := execute_line hseat hwords hexecute
  rw [called, ← hsettled] at hcopying
  have hcwd : IsNormal (seat.session.record (Text.trim line)).cwd := hreach.isNormal_cwd hseat
  have hcall : IsNormal (shell.interpreter.invocation "cp" args settled now).cwd :=
    hsettled ▸ Session.isNormal_settle hcwd
  have hfind : Registry.builtin.find? "cp" = some Command.cp := rfl
  rw [Interpreter.dispatch_of_find? args _ _ now draws hreach.commands hfind] at hstore hreport
  refine ⟨_, hstore, ?_⟩
  rw [hreport]
  exact Command.cp_copied "cp" draws hcopying hcall (hreach.safe hseat)

/-- A directory is copied over the one above it, so that what it holds lands on the directory
itself: both take over from what is below them. -/
theorem copy_exact_onto_parent :
    ∃ shell executed seat after, Reachable shell ∧ shell.seat? 1 = some seat
      ∧ shell.execute 1 "cp -r a/a ." ⟨3, 0⟩ [] = .ok executed
      ∧ executed.report.success = true ∧ executed.shell.store? 1 = some after
      ∧ (∃ copy, after.get? "/home/user/a" = some copy ∧ copy.permissions = "drwx------")
      ∧ (∃ copy, after.get? "/home/user/a/a" = some copy ∧ copy.permissions = "drwxr-xr-x") := by
  obtain ⟨shell, hshell⟩ : ∃ shell : Shell, shell = (new .usual .shared {} ⟨0, 0⟩).run
        [(⟨0, 0⟩, .create), (⟨1, 0⟩, .execute 1 "mkdir -p a/a/a" []),
         (⟨2, 0⟩, .execute 1 "chmod 700 a/a" [])] := ⟨_, rfl⟩
  have hreach : Reachable shell := ⟨_, _, _, _, _, _, _, hshell⟩
  have hbefore : (shell.seat? 1).map (fun seat =>
      (["a/a", "."].map (shell.called seat "cp -r a/a ." "cp" ["-r", "a/a", "."] ⟨3, 0⟩).resolve,
        (shell.storeOf seat).isDirectory "/home/user",
        ((shell.storeOf seat).get? "/home/user/a/a").map fun node => (node.name, node.permissions),
        ((shell.storeOf seat).get? "/home/user/a/a/a").map Node.permissions))
      = some (["/home/user/a/a", "/home/user"], true, some ("a", "drwx------"),
        some "drwxr-xr-x") := by
    rw [hshell]
    decide +kernel
  obtain ⟨seat, hseat, hfacts⟩ := Option.map_eq_some_iff.mp hbefore
  simp only [Prod.mk.injEq, List.map_cons, List.map_nil, List.cons.injEq, and_true,
    Option.map_eq_some_iff] at hfacts
  obtain ⟨⟨hhere, hthere⟩, hhome, ⟨source, hsource, hname, hmode⟩, inner, hinner, hinnermode⟩ :=
    hfacts
  have hpath : source.path = "/home/user/a/a" := Store.path_of_get? hsource
  have hcopying : Copying (shell.called seat "cp -r a/a ." "cp" ["-r", "a/a", "."] ⟨3, 0⟩)
      (shell.storeOf seat) source "/home/user/a" := by
    refine ⟨⟨['r'], "a/a", ".", rfl, ?_, ?_⟩, ?_, fun _ => ?_⟩
    · rw [hhere]
      exact hsource
    · rw [hthere, hhome, hname]
      decide
    · rw [hpath]
      decide
    · rw [hpath]
      decide
  obtain ⟨executed, hexecute, -⟩ := exists_executed "cp -r a/a ." ⟨3, 0⟩ [] hseat
  have hsuccess : (shell.execute 1 "cp -r a/a ." ⟨3, 0⟩ []).toOption.map
      (fun executed => executed.report.success) = some true := by
    rw [hshell]
    decide +kernel
  have hdone : executed.report.success = true := by
    simpa [hexecute, Except.toOption] using hsuccess
  obtain ⟨after, hafter, hcopied⟩ :=
    copy_exact hreach hseat (by decide +kernel) hcopying hexecute
  have himage := hcopied.images hdone
  rw [hpath] at himage
  refine ⟨shell, executed, seat, after, hreach, hseat, hexecute, hdone, hafter, ?_, ?_⟩
  · obtain ⟨copy, hcopy, hof⟩ := himage _ source hsource (Or.inl rfl)
    exact ⟨copy, hcopy, hof.permissions.trans hmode⟩
  · obtain ⟨copy, hcopy, hof⟩ := himage _ inner hinner (Or.inr (by decide))
    have hplace : Path.rebase "/home/user/a/a/a" "/home/user/a/a" "/home/user/a"
        = "/home/user/a/a" := by decide
    exact ⟨copy, hplace ▸ hcopy, hof.permissions.trans hinnermode⟩

end VirtualShell.Shell
