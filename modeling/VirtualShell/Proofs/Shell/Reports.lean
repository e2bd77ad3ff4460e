import VirtualShell.Frontend.Console
import VirtualShell.Proofs.Command.Find
import VirtualShell.Proofs.Shell.Events

/-!
# What a report says of a failure

A report has an error if and only if its line has failed, and if a failed line shows anything, then
its error is part of that (`Shell.report_regular`).  A front end that writes what is shown and,
apart from it, an error that is not shown, therefore writes an error apart only if nothing is shown
(`Frontend.err_printReport`).

Nothing is asked of the line.  It may be blank, name no command, or make a command break off.
-/

namespace VirtualShell

open Time (Instant)

/-- The shell words a regular verdict as a regular reply; failures and panics show nothing. -/
lemma Verdict.regular_toReply {verdict : Verdict} (name : String) (h : verdict.Regular) :
    (verdict.toReply name).Regular := by
  cases verdict with
  | reply answer => exact h
  | failure cause => exact regular_failed _
  | panic message => exact regular_failed _

/-- An error is printed apart if and only if nothing is shown. -/
lemma Frontend.err_printReport {report : Report} (h : report.Regular) :
    (printReport report).err
      = if report.output = "" then (report.error.map (· ++ "\n")).getD "" else "" := by
  have hclear : clearScreen ≠ "" := by decide
  by_cases hscreen : report.output = clearScreen
  · simp [printReport, hscreen, hclear]
  · cases herror : report.error with
    | none => simp [printReport, hscreen, herror]
    | some error =>
        by_cases hempty : report.output = ""
        · simp [printReport, hempty, herror, hclear.symm]
        · have hshown : Text.contains report.output error = true :=
            Text.contains_iff.mpr ((h.2 error herror).resolve_left hempty)
          simp [printReport, hscreen, hempty, herror, hshown]

namespace Shell

variable {shell : Shell} {id : Nat} {seat : Seat} {line : String} {now : Instant} {draws : Draws}
  {executed : Executed}

/-- The reply to any line is regular. -/
lemma regular_of_execute (hreach : shell.Reachable) (hseat : shell.seat? id = some seat)
    (hexecute : shell.execute id line now draws = .ok executed) :
    executed.report.Regular := by
  cases hwords : Text.words (Text.trim line) with
  | nil =>
      simp only [execute, hseat] at hexecute
      obtain rfl := Except.ok.inj hexecute
      simp only [Interpreter.execute, hwords]
      exact Verdict.regular_ok ""
  | cons name args =>
      obtain ⟨settled, ran, -, hran, -, -, hreport⟩ := execute_line hseat hwords hexecute
      have hregular := Interpreter.dispatch_regular settled (shell.storeOf seat) name args now draws
        hreach.commands
      rw [← hran] at hregular
      rw [hreport]
      exact Verdict.regular_toReply name hregular

/-- **Reports are regular.**  Whatever is entered in a session of a reachable shell, the report has
an error exactly if the line has failed.  What a failed line shows, if it shows anything, holds the
error, so a front end writes the error apart exactly if the line shows nothing. -/
theorem report_regular (hreach : shell.Reachable) (hseat : shell.seat? id = some seat)
    (hexecute : shell.execute id line now draws = .ok executed) :
    (executed.report.error.isSome = true ↔ executed.report.success = false)
      ∧ (executed.report.success = false → executed.report.output ≠ "" →
          ∃ error, executed.report.error = some error
            ∧ error.toList <:+: executed.report.output.toList)
      ∧ (Frontend.printReport executed.report).err
        = if executed.report.output = "" then (executed.report.error.map (· ++ "\n")).getD ""
          else "" := by
  have hregular := regular_of_execute hreach hseat hexecute
  have ⟨hsuccess, hshown⟩ := hregular
  refine ⟨?_, fun hfailed houtput => ?_, Frontend.err_printReport hregular⟩
  · rw [hsuccess]
    cases executed.report.error <;> simp
  · rw [hfailed, eq_comm, Option.isNone_eq_false_iff, Option.isSome_iff_exists] at hsuccess
    obtain ⟨error, herror⟩ := hsuccess
    exact ⟨error, herror, (hshown error herror).resolve_left houtput⟩

/-- Of two operands one is listed and the other is not there. -/
theorem report_regular_of_listed :
    ∃ shell seat executed error, Reachable shell ∧ shell.seat? 1 = some seat
      ∧ shell.execute 1 "ls /home x" ⟨1, 0⟩ [] = .ok executed
      ∧ executed.report.success = false ∧ executed.report.error = some error
      ∧ error.toList <:+: executed.report.output.toList
      ∧ Text.linesOf executed.report.output
        = ["ls: cannot access 'x': No such file or directory", "/home:", "user"] := by
  obtain ⟨shell, hshell⟩ : ∃ shell : Shell, shell =
      (new .usual .shared {} ⟨0, 0⟩).run [(⟨0, 0⟩, .create)] := ⟨_, rfl⟩
  have hreach : Reachable shell := ⟨_, _, _, _, _, _, _, hshell⟩
  have hfacts : (shell.seat? 1).map (fun _ =>
      (shell.execute 1 "ls /home x" ⟨1, 0⟩ []).toOption.map fun executed =>
        (executed.report.success, Text.linesOf executed.report.output))
      = some (some (false,
          ["ls: cannot access 'x': No such file or directory", "/home:", "user"])) := by
    rw [hshell]
    decide +kernel
  obtain ⟨seat, hseat, hfacts⟩ := Option.map_eq_some_iff.mp hfacts
  obtain ⟨executed, hexecute, -⟩ := exists_executed "ls /home x" ⟨1, 0⟩ [] hseat
  simp only [hexecute, Except.toOption, Option.map_some, Prod.mk.injEq, Option.some_inj] at hfacts
  obtain ⟨hfailed, hlines⟩ := hfacts
  have houtput : executed.report.output ≠ "" := by
    intro hempty
    rw [hempty] at hlines
    exact List.cons_ne_nil _ _ hlines.symm
  obtain ⟨-, hshown, -⟩ := report_regular hreach hseat hexecute
  obtain ⟨error, herror, hin⟩ := hshown hfailed houtput
  exact ⟨shell, seat, executed, error, hreach, hseat, hexecute, hfailed, herror, hin, hlines⟩

end Shell

end VirtualShell
