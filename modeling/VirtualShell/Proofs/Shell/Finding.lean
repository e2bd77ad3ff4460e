import VirtualShell.Proofs.Command.Find
import VirtualShell.Proofs.Shell.Unspaced
import VirtualShell.Proofs.Shell.WorkingDirectory

/-!
# Finding in a shell

What a line with `find` prints in every shell that can be reached.  The words of a line and the
paths of a namespace are without blanks, so each node that is found is one line of the output, and
that line is an operand that names it again.
-/

namespace VirtualShell.Shell

open Time (Instant)

open Command (Asks Found startOf)

variable {shell : Shell} {id : Nat} {seat : Seat} {line : String} {args : List String}
  {now : Instant} {draws : Draws} {executed : Executed}

/-- **`find` is exact and what it prints can be typed.**  A line that begins with `find` changes
nothing, and succeeds if its words are criteria.  Of a start that is there it prints the nodes at
and below it that the last filters let through, each once, in the order of the bytes of their paths,
and each as an operand that names it in the working directory, however the start was spelled. -/
theorem find_exact (hreach : shell.Reachable) (hseat : shell.seat? id = some seat)
    (hwords : Text.words (Text.trim line) = "find" :: args)
    (hexecute : shell.execute id line now draws = .ok executed) :
    executed.shell.store? id = some (shell.storeOf seat)
      ∧ (executed.report.success = true ↔ ∃ criteria, Asks criteria args)
      ∧ ∀ criteria, Asks criteria args →
        let start := Path.resolve executed.report.currentDirectory (startOf criteria)
        ((shell.storeOf seat).get? start = none → executed.report.output = "")
          ∧ ∀ top, (shell.storeOf seat).get? start = some top →
            ∃ entries, Found (shell.storeOf seat) executed.report.currentDirectory criteria top
              executed.report.output entries := by
  have hfind : Registry.builtin.find? "find" = some Command.find := rfl
  obtain ⟨ran, hran, hstore, -, hreport, -⟩ :=
    execute_builtin hreach hseat hwords hfind hexecute
  obtain ⟨hcall, hcwd⟩ := hreach.unspaced_called now hseat hwords
  -- nothing changes, so the session stays where the command was called
  obtain ⟨hstays, hsession⟩ : ran.store = shell.storeOf seat
      ∧ ran.session = (shell.called seat line "find" args now).session := by
    subst hran
    exact ⟨rfl, rfl⟩
  rw [hstays, hsession, Session.settle_of_isDirectory hcwd] at hreport
  rw [hstays] at hstore
  have hfound := fun criteria => Command.find_found criteria draws hcall
    (Text.ne_empty_of_words hwords) (hreach.safe hseat).tree (hreach.unspaced hseat)
  rw [hreport]
  refine ⟨hstore, ⟨fun hsuccess => ?_, fun ⟨criteria, hasks⟩ => ?_⟩, fun criteria hasks => ?_⟩
  · by_contra hnone
    have hnot : ¬ ∃ criteria, Asks criteria (shell.called seat line "find" args now).args := hnone
    obtain ⟨complaint, hverdict⟩ := Command.find_failed draws hnot
    rw [hran, hverdict] at hsuccess
    exact Bool.noConfusion hsuccess
  · obtain ⟨output, hverdict, -⟩ := hfound criteria hasks
    rw [hran, hverdict]
    rfl
  · obtain ⟨output, hverdict, hmissing, hthere⟩ := hfound criteria hasks
    rw [hran, hverdict]
    exact ⟨hmissing, hthere⟩

/-- The start is spelled with a way up and doubled slashes, and of two patterns the first does not
count: of a directory and the file in it the file is shown, behind what was typed. -/
theorem find_exact_of_spelled :
    ∃ shell seat executed top entries, Reachable shell ∧ shell.seat? 1 = some seat
      ∧ shell.execute 1 "find ~/a/..//a// -name *.md -type f -iname '*.rs'" ⟨3, 0⟩ [] = .ok executed
      ∧ executed.report.success = true
      ∧ Found (shell.storeOf seat) "/home/user"
          [.path "~/a/..//a//", .name false "*.md", .type .file, .name true "'*.rs'"] top
          executed.report.output entries
      ∧ entries.map Prod.fst = ["~/a/..//a/y.rs"]
      ∧ entries.map (fun entry => Path.resolve "/home/user" entry.1)
        = entries.map fun entry => entry.2.path := by
  obtain ⟨shell, hshell⟩ : ∃ shell : Shell, shell = (new .usual .shared {} ⟨0, 0⟩).run
        [(⟨0, 0⟩, .create), (⟨1, 0⟩, .execute 1 "mkdir a" []),
         (⟨2, 0⟩, .execute 1 "touch a/y.rs" [])] := ⟨_, rfl⟩
  have hreach : Reachable shell := ⟨_, _, _, _, _, _, _, hshell⟩
  obtain ⟨line, hline⟩ : ∃ line, line = "find ~/a/..//a// -name *.md -type f -iname '*.rs'" :=
    ⟨_, rfl⟩
  obtain ⟨criteria, hcriteria⟩ : ∃ criteria : List Command.Criterion, criteria
      = [.path "~/a/..//a//", .name false "*.md", .type .file, .name true "'*.rs'"] := ⟨_, rfl⟩
  have hasks : Asks criteria (criteria.flatMap Command.Criterion.words) := by
    refine ⟨rfl, fun text htext => ?_⟩
    obtain rfl : text = "~/a/..//a//" := by simpa [hcriteria] using htext
    decide
  have hfacts : (shell.seat? 1).map (fun seat =>
      ((shell.storeOf seat).isDirectory "/home/user/a",
        (shell.execute 1 line ⟨3, 0⟩ []).toOption.map fun executed =>
          (executed.report.currentDirectory, Text.linesOf executed.report.output)))
      = some (true, some ("/home/user", ["~/a/..//a/y.rs"])) := by
    rw [hshell, hline]
    decide +kernel
  obtain ⟨seat, hseat, hfacts⟩ := Option.map_eq_some_iff.mp hfacts
  obtain ⟨executed, hexecute, -⟩ := exists_executed line ⟨3, 0⟩ [] hseat
  simp only [hexecute, Except.toOption, Option.map_some, Prod.mk.injEq, Option.some_inj] at hfacts
  obtain ⟨hthere, hcwd, hlines⟩ := hfacts
  obtain ⟨top, htop, -⟩ := Store.isDirectory_iff.mp hthere
  have hwords : Text.words (Text.trim line)
      = "find" :: criteria.flatMap Command.Criterion.words := by
    rw [hline, hcriteria]
    decide +kernel
  obtain ⟨-, hsuccess, hanswer⟩ := find_exact hreach hseat hwords hexecute
  have hstart : Path.resolve executed.report.currentDirectory (startOf criteria)
      = "/home/user/a" := by
    rw [hcwd, hcriteria]
    decide
  obtain ⟨entries, hfound⟩ := (hanswer criteria hasks).2 top (hstart ▸ htop)
  rw [hcwd] at hfound
  subst hline hcriteria
  exact ⟨shell, seat, executed, top, entries, hreach, hseat, hexecute, hsuccess.mpr ⟨_, hasks⟩,
    hfound, hfound.lines.symm.trans hlines, List.map_congr_left hfound.named⟩

end VirtualShell.Shell
