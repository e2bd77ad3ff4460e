import VirtualShell.Proofs.Command.Grep
import VirtualShell.Proofs.Shell.WorkingDirectory

/-!
# Searching in a shell

What lines with `grep` print that look for one pattern in one file.  The lines of the file are
divided once and for all into those that hold the pattern and those that do not; the letters of a
line with `grep` only choose one of the two parts and how it is written
(`grep_parts_file`).  None of these lines changes the namespace or moves the session, so they may be
entered one after the other.
-/

namespace VirtualShell.Shell

open Time (Instant)

open Command (Occurs Parted fileText? lettersOf operandsOf shownLines withoutQuotes)

variable {shell : Shell} {id : Nat} {seat : Seat} {file text : String}

/-- A line with `grep` that looks for a pattern in a file.  The letters may stand in one group or in
several, before, between or behind the two operands. -/
structure GrepLine (pattern file : String) where
  line : String
  args : List String
  now : Instant
  draws : Draws
  reads : Text.words (Text.trim line) = "grep" :: args
  operands : operandsOf args = [pattern, file]
  letters : ∀ letter ∈ lettersOf args, letter ∈ ['i', 'v', 'n', 'c']

/-- Whether a line has a letter. -/
def GrepLine.has {pattern file : String} (grep : GrepLine pattern file) (letter : Char) : Bool :=
  (lettersOf grep.args).contains letter

/-- **`grep` and `grep -v` divide a file.**  Let the second operand name a file, without its quotes
and in the directory in which the session settles.  Its lines are in two parts, those that hold the
pattern and those that do not, in lower case or not.  Every line with `grep` and these operands
succeeds, changes nothing, and shows the first part, or with `-v` the second: the lines with their
numbers if it has `-n`, only how many they are if it has `-c`, and the lines alone otherwise. -/
theorem grep_parts_file (hreach : shell.Reachable) (hseat : shell.seat? id = some seat)
    (pattern : String) (ignoreCase : Bool)
    (htext : fileText? (shell.storeOf seat)
      (Path.resolve (Session.nearestDirectory (shell.storeOf seat) seat.session.cwd)
        (withoutQuotes file)) = some text) :
    ∃ found missed, Parted text found missed
      ∧ (∀ line ∈ found, Occurs ignoreCase (withoutQuotes pattern) line.1)
      ∧ (∀ line ∈ missed, ¬ Occurs ignoreCase (withoutQuotes pattern) line.1)
      ∧ ∀ grep : GrepLine pattern file, grep.has 'i' = ignoreCase →
        ∃ executed, shell.execute id grep.line grep.now grep.draws = .ok executed
          ∧ executed.report.toReply = .ok (shownLines (grep.has 'n') (grep.has 'c')
              (if grep.has 'v' then missed else found))
          ∧ executed.shell.store? id = some (shell.storeOf seat)
          ∧ executed.shell.cwd id
            = .ok (Session.nearestDirectory (shell.storeOf seat) seat.session.cwd) := by
  obtain ⟨found, missed, hparted, hfound, hmissed, hselected⟩ :=
    Command.exists_parted ignoreCase (withoutQuotes pattern) text
  refine ⟨found, missed, hparted, hfound, hmissed, fun grep hcase => ?_⟩
  have hfind : Registry.builtin.find? "grep" = some Command.grep := rfl
  obtain ⟨executed, hexecute, -⟩ := exists_executed grep.line grep.now grep.draws hseat
  obtain ⟨ran, after, hran, hreport, hafter, hsame, hstands, -⟩ :=
    execute_gentle hreach hseat grep.reads hfind (Command.gentle_inspect _) (by decide) hexecute
  obtain ⟨call, hcall⟩ : ∃ call, call = shell.called seat grep.line "grep" grep.args grep.now :=
    ⟨_, rfl⟩
  have hargs : call.args = grep.args := hcall ▸ rfl
  have hcwd : call.cwd = Session.nearestDirectory (shell.storeOf seat) seat.session.cwd := by
    rw [hcall, called_cwd]
  have hread : fileText? (shell.storeOf seat) (call.resolve (withoutQuotes file)) = some text := by
    rw [← htext, ← hcwd]
    rfl
  have hshown := Command.run_grep grep.draws (hargs ▸ grep.letters) (hargs ▸ grep.operands) hread
  rw [← hcall] at hran hreport hstands
  rw [← hran, hargs] at hshown
  subst hcase
  refine ⟨executed, hexecute, ?_, ?_, ?_⟩
  · rw [hreport, hshown, hselected _ rfl]
    rfl
  · rw [store?, hafter, Option.map_some, hsame, hshown]
  · rw [cwd, hafter]
    simp only [hstands, hcwd]

/-- The file has an empty line.  Both operands are quoted, and the letters stand in two groups, one
of them between the operands. -/
theorem grep_parts_file_of_quoted :
    ∃ (shell : Shell) (seat : Seat) (found missed : List (String × Nat))
        (grep : GrepLine "'b'" "\"x\"") (executed : Executed),
      Reachable shell ∧ shell.seat? 1 = some seat
      ∧ fileText? (shell.storeOf seat) "/home/user/x" = some "ab\n\nB\nc"
      ∧ Parted "ab\n\nB\nc" found missed
      ∧ grep.line = "grep -n 'b' -iv \"x\""
      ∧ shell.execute 1 grep.line grep.now grep.draws = .ok executed
      ∧ executed.report.output = shownLines true false missed
      ∧ shownLines true false missed = "2:\n4:c" := by
  obtain ⟨shell, hshell⟩ : ∃ shell : Shell, shell = (new .usual .shared {} ⟨0, 0⟩).run
        [(⟨0, 0⟩, .create), (⟨1, 0⟩, .execute 1 "echo -e ab\\n\\nB\\nc > x" [])] := ⟨_, rfl⟩
  have hreach : Reachable shell := ⟨_, _, _, _, _, _, _, hshell⟩
  have hletters : lettersOf ["-n", "'b'", "-iv", "\"x\""] = ['n', 'i', 'v'] := by decide
  obtain ⟨grep, hline, hargs, hnow, hdraws⟩ : ∃ grep : GrepLine "'b'" "\"x\"",
      grep.line = "grep -n 'b' -iv \"x\"" ∧ grep.args = ["-n", "'b'", "-iv", "\"x\""]
        ∧ grep.now = ⟨2, 0⟩ ∧ grep.draws = [] :=
    ⟨⟨_, _, _, _, by decide +kernel, by decide, by simp [hletters]⟩, rfl, rfl, rfl, rfl⟩
  have hplaced : (shell.seat? 1).map (fun seat =>
      (Session.nearestDirectory (shell.storeOf seat) seat.session.cwd,
        fileText? (shell.storeOf seat) "/home/user/x"))
      = some ("/home/user", some "ab\n\nB\nc") := by
    rw [hshell]
    decide +kernel
  have houtput : (shell.execute 1 grep.line grep.now grep.draws).toOption.map
      (fun executed => executed.report.output) = some "2:\n4:c" := by
    rw [hshell, hline, hnow, hdraws]
    decide +kernel
  obtain ⟨seat, hseat, hplaced⟩ := Option.map_eq_some_iff.mp hplaced
  obtain ⟨hcwd, htext⟩ := Prod.mk.inj hplaced
  have hpath : Path.resolve "/home/user" (withoutQuotes "\"x\"") = "/home/user/x" := by decide
  have hread : fileText? (shell.storeOf seat) (Path.resolve (Session.nearestDirectory
      (shell.storeOf seat) seat.session.cwd) (withoutQuotes "\"x\"")) = some "ab\n\nB\nc" := by
    rw [hcwd, hpath, htext]
  obtain ⟨found, missed, hparted, -, -, hshown⟩ :=
    grep_parts_file hreach hseat "'b'" true hread
  have hcase : grep.has 'i' = true ∧ grep.has 'v' = true ∧ grep.has 'n' = true
      ∧ grep.has 'c' = false := by
    simp only [GrepLine.has, hargs]
    decide
  obtain ⟨hi, hv, hn, hc⟩ := hcase
  obtain ⟨executed, hexecute, hreply, -⟩ := hshown grep hi
  rw [hv, hn, hc, if_pos rfl] at hreply
  have hsame : executed.report.output = shownLines true false missed :=
    congrArg Reply.output hreply
  simp only [hexecute, Except.toOption, Option.map_some, Option.some_inj] at houtput
  exact ⟨shell, seat, found, missed, grep, executed, hreach, hseat, htext, hparted, hline,
    hexecute, hsame, hsame ▸ houtput⟩

end VirtualShell.Shell
