import VirtualShell.Proofs.Command.Echo
import VirtualShell.Proofs.Shell.WorkingDirectory

/-!
# What is written into a file by `echo` is read back by `cat`

A line with `echo` may print a text, put it into a file or append it.  None of these takes a
directory away, so the session stays where it is and the name of the file leads to the same file all
along (`Holds`).  An appended text comes behind a line feed, if there is a text before it.  So, from
the first text on, the file holds the texts of the lines that have succeeded, with line feeds
between them (`Holds.run`), and that is what `cat` shows (`cat_shows_echoed`).  A line that fails,
say because the file would be too large, leaves the whole namespace as it was.
-/

namespace VirtualShell.Shell

open Time (Instant)

open Command (Destination Plain Sends fileText? printed written)

variable {shell : Shell} {id : Nat} {seat : Seat} {file line shown : String} {now : Instant}
  {draws : Draws} {into : String → Destination}

/-! ## Lines -/

/-- A line with `echo` that sends its words into a file. -/
structure EchoLine (into : String → Destination) (file : String) where
  line : String
  words : List String
  /-- The redirection. -/
  tail : List String
  now : Instant
  draws : Draws
  reads : Text.words (Text.trim line) = "echo" :: (words ++ tail)
  plain : ∀ word ∈ words, Plain word
  sends : Sends file into tail

namespace EchoLine

/-- What the line would print without its redirection. -/
def text (echo : EchoLine into file) : String := printed echo.words

/-- The line as a step of a history. -/
def entry (id : Nat) (echo : EchoLine into file) : Instant × Step :=
  (echo.now, .execute id echo.line echo.draws)

end EchoLine

/-- Whether a session gets a line through. -/
def succeeds (shell : Shell) (id : Nat) (echo : EchoLine into file) : Bool :=
  match shell.execute id echo.line echo.now echo.draws with
  | .ok executed => executed.report.success
  | .error _ => false

/-- Of lines one after the other, those that succeed. -/
def succeeding (id : Nat) : Shell → List (EchoLine into file) → List (EchoLine into file)
  | _, [] => []
  | shell, echo :: rest =>
    let later := succeeding id (shell.after echo.now (echo.entry id).2) rest
    if shell.succeeds id echo then echo :: later else later

/-! ## The file -/

/-- A session stands where the name of a file leads to a text. -/
def Holds (shell : Shell) (id : Nat) (file text : String) : Prop :=
  ∃ seat, shell.seat? id = some seat
    ∧ (shell.storeOf seat).isDirectory seat.session.cwd = true
    ∧ fileText? (shell.storeOf seat) (Path.resolve seat.session.cwd file) = some text

/-- What a line does that sends a text into a file: it succeeds and the text is in the file, or it
fails and the namespace is as it was.  The session stays where the line was read. -/
lemma execute_echo (hreach : shell.Reachable) (hseat : shell.seat? id = some seat)
    (hquote : '"' ∉ file.toList) (echo : EchoLine into file) :
    ∃ executed after cwd, shell.execute id echo.line echo.now echo.draws = .ok executed
      ∧ cwd = Session.nearestDirectory (shell.storeOf seat) seat.session.cwd
      ∧ executed.shell.seat? id = some after ∧ after.session.cwd = cwd
      ∧ (executed.shell.storeOf after).isDirectory cwd = true
      ∧ ((executed.report.success = true
          ∧ fileText? (executed.shell.storeOf after) (Path.resolve cwd file)
            = some (written (shell.storeOf seat) (Path.resolve cwd file) echo.text (into file)))
        ∨ (executed.report.success = false
          ∧ executed.shell.storeOf after = shell.storeOf seat)) := by
  have hfind : Registry.builtin.find? "echo" = some Command.echo := rfl
  obtain ⟨executed, hexecute, -⟩ := exists_executed echo.line echo.now echo.draws hseat
  obtain ⟨ran, after, hran, hreport, hafter, hsame, hstands, hthere⟩ :=
    execute_gentle hreach hseat echo.reads hfind Command.gentle_echo (by decide) hexecute
  obtain ⟨call, hcall⟩ : ∃ call, call = shell.called seat echo.line "echo"
      (echo.words ++ echo.tail) echo.now := ⟨_, rfl⟩
  have hcwd : call.cwd = _ := hcall ▸ called_cwd shell seat echo.line "echo" _ echo.now
  rw [Command.run_echo_sends echo.draws rfl echo.plain hquote echo.sends] at hran
  rw [← hcall] at hran hreport hstands hthere
  refine ⟨executed, after, call.cwd, hexecute, hcwd, hafter, hstands, hsame ▸ hthere, ?_⟩
  rw [hsame, hreport]
  rcases Command.echoInto_cases call (shell.storeOf seat) file
      (written (shell.storeOf seat) (call.resolve file) (printed echo.words) (into file)) with
    ⟨written, hinto, htext⟩ | ⟨complaint, hinto⟩
  · rw [hinto] at hran
    rw [hran]
    exact Or.inl ⟨rfl, htext⟩
  · rw [hinto] at hran
    rw [hran]
    exact Or.inr ⟨rfl, rfl⟩

lemma succeeds_eq {executed : Executed} {echo : EchoLine into file}
    (hexecute : shell.execute id echo.line echo.now echo.draws = .ok executed) :
    shell.succeeds id echo = executed.report.success := by
  rw [succeeds, hexecute]

lemma after_entry {executed : Executed} {echo : EchoLine into file}
    (hexecute : shell.execute id echo.line echo.now echo.draws = .ok executed) :
    shell.after echo.now (echo.entry id).2 = executed.shell := by
  rw [EchoLine.entry, after, hexecute]

/-- The first line puts its text into the file. -/
lemma holds_overwrite (hreach : shell.Reachable) (hseat : shell.seat? id = some seat)
    (hquote : '"' ∉ file.toList) (first : EchoLine .overwrite file)
    (hsuccess : shell.succeeds id first = true) :
    (shell.after first.now (first.entry id).2).Reachable
      ∧ Holds (shell.after first.now (first.entry id).2) id file first.text := by
  obtain ⟨executed, after, cwd, hexecute, -, hafter, hstands, hthere, hdone | ⟨hfailed, -⟩⟩ :=
    execute_echo hreach hseat hquote first
  · rw [after_entry hexecute]
    exact ⟨hreach.executed hexecute, after, hafter, hstands ▸ hthere, hstands ▸ hdone.2⟩
  · rw [succeeds_eq hexecute, hfailed] at hsuccess
    exact absurd hsuccess (by decide)

/-- **One line more**: the text of the file grows by a line feed and the text of the line, or by
nothing. -/
lemma Holds.append (hreach : shell.Reachable) (hquote : '"' ∉ file.toList) (hshown : shown ≠ "")
    (h : Holds shell id file shown) (echo : EchoLine .append file) :
    (shell.after echo.now (echo.entry id).2).Reachable
      ∧ Holds (shell.after echo.now (echo.entry id).2) id file
        (if shell.succeeds id echo then shown ++ "\n" ++ echo.text else shown) := by
  obtain ⟨seat, hseat, hdir, htext⟩ := h
  obtain ⟨executed, after, cwd, hexecute, hcwd, hafter, hstands, hthere, hcases⟩ :=
    execute_echo hreach hseat hquote echo
  rw [Session.nearestDirectory_of_isDirectory hdir] at hcwd
  rw [after_entry hexecute, succeeds_eq hexecute]
  refine ⟨hreach.executed hexecute, after, hafter, hstands ▸ hthere, ?_⟩
  rw [hstands]
  subst hcwd
  rcases hcases with ⟨hsuccess, hnew⟩ | ⟨hfailed, hsame⟩
  · rw [hsuccess, if_pos rfl, hnew, written, Command.appended_of_fileText? htext hshown]
  · rw [hfailed, if_neg (by decide), hsame, htext]

/-- **Any number of lines more.** -/
lemma Holds.run (hreach : shell.Reachable) (hquote : '"' ∉ file.toList) (hshown : shown ≠ "")
    (h : Holds shell id file shown) (appends : List (EchoLine .append file)) :
    (shell.run (appends.map (EchoLine.entry id))).Reachable
      ∧ Holds (shell.run (appends.map (EchoLine.entry id))) id file
        ("\n".intercalate (shown :: (succeeding id shell appends).map EchoLine.text)) := by
  induction appends generalizing shell shown with
  | nil => exact ⟨hreach, by simpa [succeeding, Shell.run] using h⟩
  | cons echo rest ih =>
      -- the text never becomes empty, so what comes next is appended behind a line feed too
      obtain ⟨hlater, hholds⟩ := h.append hreach hquote hshown echo
      rw [succeeding]
      cases hsuccess : shell.succeeds id echo with
      | false =>
          rw [hsuccess] at hholds
          exact ih hlater hshown hholds
      | true =>
          rw [hsuccess] at hholds
          obtain ⟨hreached, hrest⟩ := ih hlater (by simp) hholds
          have hgrown : ∀ more, "\n".intercalate ((shown ++ "\n" ++ echo.text) :: more)
              = "\n".intercalate (shown :: echo.text :: more) := fun more => by
            rw [String.intercalate_cons_cons, ← String.intercalate_cons_append]
          rw [if_pos rfl, hgrown] at hrest
          exact ⟨hreached, hrest⟩

/-- What a line shows that reads the file. -/
lemma execute_cat (hreach : shell.Reachable) (h : Holds shell id file shown)
    (hhyphen : file.toList.head? ≠ some '-') (now : Instant) (draws : Draws)
    (hwords : Text.words (Text.trim line) = ["cat", file]) :
    ∃ executed, shell.execute id line now draws = .ok executed
      ∧ executed.report.toReply = .ok shown := by
  obtain ⟨seat, hseat, hdir, htext⟩ := h
  have hfind : Registry.builtin.find? "cat" = some Command.cat := rfl
  obtain ⟨executed, hexecute, -⟩ := exists_executed line now draws hseat
  obtain ⟨ran, -, hran, hreport, -⟩ :=
    execute_gentle hreach hseat hwords hfind (Command.gentle_inspect _) (by decide) hexecute
  have hcwd := called_cwd_of_isDirectory hdir line "cat" [file] now
  have hread : fileText? (shell.storeOf seat)
      ((shell.called seat line "cat" [file] now).resolve file) = some shown := by
    rw [← htext, ← hcwd]
    rfl
  rw [Command.run_cat draws rfl hhyphen hread] at hran
  exact ⟨executed, hexecute, by rw [hreport, hran]; rfl⟩

/-- What a line prints that sends its words nowhere. -/
lemma execute_echo_screen {words : List String} (hreach : shell.Reachable)
    (hseat : shell.seat? id = some seat) (now : Instant) (draws : Draws)
    (hwords : Text.words (Text.trim line) = "echo" :: words)
    (hplain : ∀ word ∈ words, Plain word) :
    ∃ executed, shell.execute id line now draws = .ok executed
      ∧ executed.report.toReply = .ok (printed words) := by
  have hfind : Registry.builtin.find? "echo" = some Command.echo := rfl
  obtain ⟨executed, hexecute, -⟩ := exists_executed line now draws hseat
  obtain ⟨ran, -, hran, hreport, -⟩ :=
    execute_gentle hreach hseat hwords hfind Command.gentle_echo (by decide) hexecute
  rw [Command.run_echo_screen draws rfl hplain] at hran
  exact ⟨executed, hexecute, by rw [hreport, hran]; rfl⟩

/-- **What `echo` writes and appends, `cat` reads back.**  A session of a reachable shell executes
a line with `echo` that puts its words into a file, and then any number of lines that append theirs,
each with its own options and with the file behind the redirection or attached to it.  If the first
succeeds and its text is not empty, then `cat` shows this text and, each behind a line feed, the
texts of the others that succeed, in order.  The text of a line is what `echo` prints for its words,
and a line that fails leaves the namespace as it was. -/
theorem cat_shows_echoed (hreach : shell.Reachable) (hseat : shell.seat? id = some seat)
    (hquote : '"' ∉ file.toList) (hhyphen : file.toList.head? ≠ some '-') :
    (∀ line words now draws, Text.words (Text.trim line) = "echo" :: words →
        (∀ word ∈ words, Plain word) →
        ∃ executed, shell.execute id line now draws = .ok executed
          ∧ executed.report.toReply = .ok (printed words))
      ∧ (∀ (into : String → Destination) (echo : EchoLine into file),
        ∃ executed, shell.execute id echo.line echo.now echo.draws = .ok executed
          ∧ (executed.report.success = false → executed.shell.store? id = shell.store? id))
      ∧ ∀ (first : EchoLine .overwrite file) (appends : List (EchoLine .append file)),
        shell.succeeds id first = true → printed first.words ≠ "" →
        ∀ line now draws, Text.words (Text.trim line) = ["cat", file] →
        ∃ executed, (shell.run (first.entry id :: appends.map (EchoLine.entry id))).execute id
            line now draws = .ok executed
          ∧ executed.report.toReply = .ok ("\n".intercalate (printed first.words
              :: (succeeding id (shell.after first.now (first.entry id).2) appends).map
                fun echo => printed echo.words)) := by
  refine ⟨fun line words now draws hwords hplain =>
      execute_echo_screen hreach hseat now draws hwords hplain, fun into echo => ?_,
    fun first appends hsuccess htext line now draws hwords => ?_⟩
  · obtain ⟨executed, after, cwd, hexecute, -, hafter, -, -, hcases⟩ :=
      execute_echo hreach hseat hquote echo
    refine ⟨executed, hexecute, fun hfailed => ?_⟩
    obtain ⟨hsuccess, -⟩ | ⟨-, hsame⟩ := hcases
    · rw [hfailed] at hsuccess
      exact absurd hsuccess (by decide)
    · rw [store?, store?, hafter, hseat, Option.map_some, Option.map_some, hsame]
  · obtain ⟨hfirst, hholds⟩ := holds_overwrite hreach hseat hquote first hsuccess
    obtain ⟨hlast, hlasts⟩ := hholds.run hfirst hquote htext appends
    exact execute_cat hlast hlasts hhyphen now draws hwords

/-- A file may have twelve bytes.  A line with an escape is followed by an empty one, by one that is
too long and by one with `>` inside a word. -/
theorem cat_shows_echoed_within_limit :
    ∃ (shell : Shell) (seat : Seat) (first : EchoLine .overwrite "notes")
        (appends : List (EchoLine .append "notes")) (executed : Executed),
      shell = (new .usual .shared { fileSize := 12 } ⟨0, 0⟩).run
        [(⟨0, 0⟩, .create)]
      ∧ shell.seat? 1 = some seat ∧ first.line = "echo -e \"a\\tb\" > notes"
      ∧ appends.map EchoLine.line
        = ["echo >>notes", "echo longer than that >> notes", " echo -n c>d >>  notes"]
      ∧ (shell.run (first.entry 1 :: appends.map (EchoLine.entry 1))).execute 1 "cat notes"
        ⟨5, 0⟩ [] = .ok executed
      ∧ executed.report.toReply = .ok "a\tb\n\nc>d" := by
  obtain ⟨shell, hshell⟩ : ∃ shell : Shell, shell =
      (new .usual .shared { fileSize := 12 } ⟨0, 0⟩).run [(⟨0, 0⟩, .create)] := ⟨_, rfl⟩
  have hreach : Reachable shell := ⟨_, _, _, _, _, _, _, hshell⟩
  obtain ⟨first, hfirst⟩ : ∃ first : EchoLine .overwrite "notes", first =
      ⟨"echo -e \"a\\tb\" > notes", ["-e", "\"a\\tb\""], [">", "notes"], ⟨1, 0⟩, [],
        by decide +kernel, by decide, .overwrite⟩ := ⟨_, rfl⟩
  obtain ⟨appends, happends⟩ : ∃ appends : List (EchoLine .append "notes"), appends =
      [⟨"echo >>notes", [], [">>notes"], ⟨2, 0⟩, [], by decide +kernel, by decide,
          .appendAttached (by decide)⟩,
        ⟨"echo longer than that >> notes", ["longer", "than", "that"], [">>", "notes"], ⟨3, 0⟩, [],
          by decide +kernel, by decide, .append⟩,
        ⟨" echo -n c>d >>  notes", ["-n", "c>d"], [">>", "notes"], ⟨4, 0⟩, [], by decide +kernel,
          by decide, .append⟩] := ⟨_, rfl⟩
  have hfacts : (shell.seat? 1).isSome = true ∧ shell.succeeds 1 first = true
      ∧ printed first.words = "a\tb"
      ∧ (succeeding 1 (shell.after first.now (first.entry 1).2) appends).map
        (fun echo => printed echo.words) = ["", "c>d"] := by
    rw [hshell, hfirst, happends]
    decide +kernel
  obtain ⟨hlive, hsuccess, htext, htexts⟩ := hfacts
  obtain ⟨seat, hseat⟩ := Option.isSome_iff_exists.mp hlive
  have hquote : '"' ∉ "notes".toList := by decide
  obtain ⟨-, -, hreads⟩ := cat_shows_echoed hreach hseat hquote (by decide)
  obtain ⟨executed, hexecute, hshown⟩ := hreads first appends hsuccess (by simp [htext]) "cat notes"
    ⟨5, 0⟩ [] (by decide +kernel)
  rw [htext, htexts] at hshown
  refine ⟨shell, seat, first, appends, executed, hshell, hseat, ?_, ?_, hexecute, hshown.trans ?_⟩
  · rw [hfirst]
  · rw [happends]
    rfl
  · decide

end VirtualShell.Shell
