import VirtualShell.Proofs.Command.Manifest
import VirtualShell.Proofs.Shell.Unspaced
import VirtualShell.Proofs.Shell.WorkingDirectory

/-!
# Manifests in a shell

What `npm` shows of the manifests that `npm init` and `git clone` have written.  A session that
stands in a directory with such a manifest can run its script (`Manifested.runs`), and is where it
was afterwards; so it can do so any number of times (`Manifested.shows`).
-/

namespace VirtualShell.Shell

open Time (Instant)

open VirtualShell.Path (IsNormal)

open Command (Offers RunsScript scriptLines)

variable {shell : Shell} {id : Nat} {seat : Seat}
  {line dir remote name version script shown : String} {args rest more : List String}
  {now : Instant} {draws : Draws} {executed : Executed} {manifest : Json.Value}
  {steps : List (Instant × Step)}

/-! ## Running a script -/

/-- A line that has `npm` run a script. -/
def RunLine (script line : String) : Prop :=
  ∃ args, Text.words (Text.trim line) = "npm" :: args ∧ RunsScript script args

/-- Steps of a session in each of which it has a script run. -/
def OnlyRuns (id : Nat) (script : String) (steps : List (Instant × Step)) : Prop :=
  ∀ entry ∈ steps, ∃ line draws, entry.2 = .execute id line draws ∧ RunLine script line

/-- A session has a script run that shows certain lines, at once or after it has done so any number
of times. -/
def Shows (shell : Shell) (id : Nat) (script : String) (lines : List String) : Prop :=
  ∀ steps, OnlyRuns id script steps → ∀ line now draws, RunLine script line →
    ∃ ran, (shell.run steps).execute id line now draws = .ok ran
      ∧ ran.report.success = true ∧ Text.linesOf ran.report.output = lines

/-- A session of a reachable shell stands in a directory that is there, with a manifest in it. -/
structure Manifested (shell : Shell) (id : Nat) (dir : String) (manifest : Json.Value) : Prop where
  reachable : shell.Reachable
  standing : ∃ seat, shell.seat? id = some seat ∧ seat.session.cwd = dir
    ∧ (shell.storeOf seat).isDirectory dir = true
    ∧ Command.fileText? (shell.storeOf seat) (Path.resolve dir "package.json")
      = some manifest.indented

/-- Running a script shows it and leaves the session with its manifest. -/
lemma Manifested.runs (h : Manifested shell id dir manifest)
    (hoffers : Offers manifest name version script shown) (hline : RunLine script line)
    (now : Instant) (draws : Draws) :
    ∃ ran, shell.execute id line now draws = .ok ran
      ∧ ran.report = ⟨.ok (Text.unlines (scriptLines name version script shown)), dir⟩
      ∧ Manifested ran.shell id dir manifest := by
  obtain ⟨hreach, seat, hseat, hcwd, hthere, hwritten⟩ := h
  obtain ⟨args, hwords, hargs⟩ := hline
  have hfind : Registry.builtin.find? "npm" = some Command.npm := rfl
  obtain ⟨executed, hexecute, -⟩ := exists_executed line now draws hseat
  obtain ⟨ran, after, hran, hreport, hafter, hsame, hstands, hstill⟩ :=
    execute_gentle hreach hseat hwords hfind Command.gentle_npm (by decide) hexecute
  obtain ⟨call, hcall⟩ : ∃ call, call = shell.called seat line "npm" args now := ⟨_, rfl⟩
  have hdir : call.cwd = dir := by
    rw [hcall, called_cwd_of_isDirectory (hcwd ▸ hthere), hcwd]
  have hread : Command.fileText? (shell.storeOf seat) (Command.manifestPath call)
      = some manifest.indented := by
    rw [← hwritten, ← hdir]
    rfl
  rw [← hcall] at hran hreport hstands hstill
  rw [Command.npm_shows draws (hcall ▸ hargs) hread hoffers] at hran
  rw [hdir] at hreport hstands hstill
  rw [hran] at hreport hstill hsame
  refine ⟨executed, hexecute, hreport, hreach.executed hexecute, after, hafter, hstands, ?_, ?_⟩
  · rw [hsame, hstill]
  · rw [hsame, hwritten]

/-- However often, by induction on the steps. -/
lemma Manifested.run (h : Manifested shell id dir manifest)
    (hoffers : Offers manifest name version script shown) (hsteps : OnlyRuns id script steps) :
    Manifested (shell.run steps) id dir manifest := by
  induction steps generalizing shell with
  | nil => exact h
  | cons entry rest ih =>
      obtain ⟨⟨line, draws, hstep, hline⟩, hrest⟩ := List.forall_mem_cons.mp hsteps
      obtain ⟨ran, hexecute, -, hmanifested⟩ := h.runs hoffers hline entry.1 draws
      have hafter : shell.after entry.1 entry.2 = ran.shell := by
        rw [hstep, after, hexecute]
      change Manifested ((shell.after entry.1 entry.2).run rest) id dir manifest
      exact ih (hafter ▸ hmanifested) hrest

theorem Manifested.shows (h : Manifested shell id dir manifest)
    (hoffers : Offers manifest name version script shown)
    (hname : '\n' ∉ name.toList ∧ '\r' ∉ name.toList)
    (hrest : ∀ text ∈ [version, script, shown], '\n' ∉ text.toList ∧ '\r' ∉ text.toList) :
    Shows shell id script (scriptLines name version script shown) := by
  intro steps hsteps line now draws hline
  obtain ⟨ran, hexecute, hreport, -⟩ := (h.run hoffers hsteps).runs hoffers hline now draws
  refine ⟨ran, hexecute, by rw [hreport]; rfl, ?_⟩
  rw [hreport]
  exact Command.linesOf_unlines_scriptLines hname hrest

/-! ## Writing a manifest -/

/-- A line with `npm init` that succeeds leaves the manifest of the directory that it stands in. -/
lemma npm_inits (hreach : shell.Reachable) (hseat : shell.seat? id = some seat)
    (hwords : Text.words (Text.trim line) = "npm" :: "init" :: rest)
    (hexecute : shell.execute id line now draws = .ok executed)
    (hsuccess : executed.report.success = true) :
    Manifested executed.shell id executed.report.currentDirectory
        (Command.newManifest executed.report.currentDirectory)
      ∧ Text.Unspaced executed.report.currentDirectory.toList := by
  have hfind : Registry.builtin.find? "npm" = some Command.npm := rfl
  obtain ⟨ran, after, hran, hreport, hafter, hsame, hstands, hthere⟩ :=
    execute_gentle hreach hseat hwords hfind Command.gentle_npm (by decide) hexecute
  have hcall := (hreach.unspaced_called now hseat hwords).1
  rw [hreport, hran] at hsuccess
  have hwritten := Command.npm_init_writes rfl hsuccess
  rw [← hran, ← hsame] at hwritten
  rw [hreport]
  exact ⟨⟨hreach.executed hexecute, after, hafter, hstands, hsame ▸ hthere, hwritten⟩, hcall.cwd⟩

/-- The second operand is one of the arguments, and does not begin with a hyphen. -/
lemma mem_of_operands
    (hoperands : (rest.filter fun arg => !Text.startsWith "-" arg) = remote :: dir :: more) :
    dir ∈ rest ∧ Text.startsWith "-" dir = false := by
  have hmem : dir ∈ rest.filter fun arg => !Text.startsWith "-" arg := by
    rw [hoperands]
    exact List.mem_cons_of_mem remote List.mem_cons_self
  simpa using List.mem_filter.mp hmem

/-- A line with `git clone` into a directory that succeeds leaves the manifest there. -/
lemma git_clones (hreach : shell.Reachable) (hseat : shell.seat? id = some seat)
    (hwords : Text.words (Text.trim line) = "git" :: "clone" :: rest)
    (hoperands : (rest.filter fun arg => !Text.startsWith "-" arg) = remote :: dir :: more)
    (hexecute : shell.execute id line now draws = .ok executed)
    (hsuccess : executed.report.success = true) :
    ∃ after target, executed.shell.seat? id = some after
      ∧ after.session.cwd = executed.report.currentDirectory
      ∧ (executed.shell.storeOf after).isDirectory after.session.cwd = true
      ∧ target = Path.resolve executed.report.currentDirectory dir
      ∧ Text.Unspaced target.toList
      ∧ (executed.shell.storeOf after).isDirectory target = true
      ∧ Command.fileText? (executed.shell.storeOf after) (Path.resolve target "package.json")
        = some (Command.clonedManifest (Path.fileName target)
            (Log.stripCredentials remote)).indented := by
  have hfind : Registry.builtin.find? "git" = some Command.git := rfl
  obtain ⟨ran, after, hran, hreport, hafter, hsame, hstands, hthere⟩ :=
    execute_gentle hreach hseat hwords hfind Command.gentle_git (by decide) hexecute
  have hcall := (hreach.unspaced_called now hseat hwords).1
  have hwell := (hreach.safe hseat).tree
  have hcwd := hwell.isNormal_of_isDirectory
    (isDirectory_called_cwd hreach hseat line "git" ("clone" :: rest) now)
  rw [hreport, hran] at hsuccess
  have hwritten := Command.git_clone_writes rfl hoperands hwell hcwd hsuccess
  rw [← hran, ← hsame] at hwritten
  have hdir := List.mem_cons_of_mem "clone" (mem_of_operands hoperands).1
  rw [hreport]
  refine ⟨after, _, hafter, hstands, ?_, rfl,
    Path.unspaced_resolve hcall.cwd (hcall.args dir hdir), ?_, hwritten⟩
  · rw [hsame, hstands, hthere]
  · exact Command.isDirectory_of_manifest ((hreach.executed hexecute).safe hafter).tree
      (Path.isNormal_resolve _ _) hwritten

/-- A session enters a directory that is there. -/
lemma cd_enters (hreach : shell.Reachable) (hseat : shell.seat? id = some seat)
    (hwords : Text.words (Text.trim line) = ["cd", dir]) (hdash : dir ≠ "-")
    (hcwd : (shell.storeOf seat).isDirectory seat.session.cwd = true)
    (hthere : (shell.storeOf seat).isDirectory (Path.resolve seat.session.cwd dir) = true)
    (now : Instant) (draws : Draws) :
    ∃ entered after, shell.execute id line now draws = .ok entered
      ∧ entered.report = ⟨.ok "", Path.resolve seat.session.cwd dir⟩
      ∧ entered.shell.seat? id = some after
      ∧ after.session.cwd = Path.resolve seat.session.cwd dir
      ∧ entered.shell.storeOf after = shell.storeOf seat := by
  have hfind : Registry.builtin.find? "cd" = some Command.cd := rfl
  obtain ⟨entered, hexecute, -⟩ := exists_executed line now draws hseat
  obtain ⟨ran, hran, hstore, hstands, hreport, -⟩ :=
    execute_builtin hreach hseat hwords hfind hexecute
  obtain ⟨call, hcall⟩ : ∃ call, call = shell.called seat line "cd" [dir] now := ⟨_, rfl⟩
  have htarget : call.resolve dir = Path.resolve seat.session.cwd dir := by
    rw [hcall, Invocation.resolve, Session.resolve]
    exact congrArg (Path.resolve · dir) (called_cwd_of_isDirectory hcwd line "cd" [dir] now)
  have hargs : call.args = [dir] := hcall ▸ rfl
  rw [← htarget] at hthere ⊢
  have hsettled : ((call.session.enter (call.resolve dir)).settle (shell.storeOf seat)).1
      = call.session.enter (call.resolve dir) := Session.settle_of_isDirectory hthere
  rw [← hcall, Command.run_cd_of_isDirectory draws hargs hdash hthere] at hran
  replace hreport : entered.report = ⟨.ok "", call.resolve dir⟩ := by
    rw [hreport, hran]
    simp only [hsettled]
    rfl
  rw [hran] at hstore
  obtain ⟨after, hafter, hsame, hstand⟩ := exists_seat hstore hstands
  rw [hreport] at hstand
  exact ⟨entered, after, hexecute, hreport, hafter, hstand, hsame⟩

/-! ## Writing and running -/

/-- What is made of the name of a directory breaks no line. -/
lemma unbroken_packageName {path : String} (h : Text.Unspaced path.toList) :
    '\n' ∉ (Text.lowerCase (Path.fileName path)).toList
      ∧ '\r' ∉ (Text.lowerCase (Path.fileName path)).toList := by
  have hname := Text.unspaced_lowerCase (Path.unspaced_fileName h)
  exact ⟨hname.not_mem (by decide), hname.not_mem (by decide)⟩

/-- **Generated manifests can be run.**  If `npm init` has succeeded, the session can have the test
of the new package run; and if `git clone` into a directory has, then `cd` leads there and the
session can have the program started.  The package is named by the small letters of the last segment
of the path of that directory, whatever this has in it, and whatever the address of the remote. -/
theorem generated_manifest_runs (hreach : shell.Reachable)
    (hexecute : shell.execute id line now draws = .ok executed)
    (hsuccess : executed.report.success = true) :
    (∀ rest, Text.words (Text.trim line) = "npm" :: "init" :: rest →
      Shows executed.shell id "test"
        ["", "> " ++ Text.lowerCase (Path.fileName executed.report.currentDirectory)
            ++ "@1.0.0 test",
          "> " ++ Command.noTestScript])
    ∧ ∀ rest remote dir more, Text.words (Text.trim line) = "git" :: "clone" :: rest →
      (rest.filter fun arg => !Text.startsWith "-" arg) = remote :: dir :: more →
      ∀ next later moreDraws, Text.words (Text.trim next) = ["cd", dir] →
        ∃ entered target, executed.shell.execute id next later moreDraws = .ok entered
          ∧ target = Path.resolve executed.report.currentDirectory dir
          ∧ entered.report = ⟨.ok "", target⟩
          ∧ Shows entered.shell id "start"
            ["", "> " ++ Text.lowerCase (Path.fileName target) ++ "@1.0.0 start",
              "> node index.js"] := by
  obtain ⟨seat, hseat⟩ : ∃ seat, shell.seat? id = some seat := by
    cases hseat : shell.seat? id with
    | none => simp [execute, hseat] at hexecute
    | some seat => exact ⟨seat, rfl⟩
  have hafter := hreach.executed hexecute
  constructor
  · intro rest hwords
    obtain ⟨hmanifested, hunspaced⟩ := npm_inits hreach hseat hwords hexecute hsuccess
    have hshows := hmanifested.shows (Command.offers_newManifest _)
      (unbroken_packageName hunspaced) (by decide)
    simpa [Command.scriptLines, String.append_assoc] using hshows
  · intro rest remote dir more hwords hoperands next later moreDraws hnext
    obtain ⟨stand, target, hstand, hcwd, hthere, htarget, hunspaced, hmade, hwritten⟩ :=
      git_clones hreach hseat hwords hoperands hexecute hsuccess
    have hdash : dir ≠ "-" := by
      rintro rfl
      exact absurd (mem_of_operands hoperands).2 (by decide)
    have hplace : target = Path.resolve stand.session.cwd dir := by rw [htarget, hcwd]
    obtain ⟨entered, seated, hentered, hreport, hseated, hstands, hsame⟩ :=
      cd_enters hafter hstand hnext hdash hthere (hplace ▸ hmade) later moreDraws
    rw [← hplace] at hreport hstands
    rw [← hsame] at hmade hwritten
    have hmanifested : Manifested entered.shell id target _ :=
      ⟨hafter.executed hentered, seated, hseated, hstands, hmade, hwritten⟩
    have hshows := hmanifested.shows (Command.offers_clonedManifest _ _)
      (unbroken_packageName hunspaced) (by decide)
    refine ⟨entered, target, hentered, htarget, hreport, ?_⟩
    simpa [Command.scriptLines, String.append_assoc] using hshows

/-- A package begun in a directory that has a quotation mark, a backslash and a capital in its name,
and a clone from an address with marks of the same kind, in a directory with an escape character. -/
theorem generated_manifest_runs_of_quoted :
    ∃ shell made ran cloned entered started, Reachable shell
      ∧ shell.execute 1 "npm init -y" ⟨3, 0⟩ [] = .ok made ∧ made.report.success = true
      ∧ made.report.currentDirectory = "/home/user/\"É\\"
      ∧ made.shell.execute 1 "npm run test" ⟨4, 0⟩ [] = .ok ran ∧ ran.report.success = true
      ∧ Text.linesOf ran.report.output
        = ["", "> \"é\\@1.0.0 test", "> echo \"Error: no test specified\" && exit 1"]
      ∧ shell.execute 1 "git clone http://h/\"\\ ./\x1bΣΣ" ⟨5, 0⟩ [] = .ok cloned
      ∧ cloned.report.success = true
      ∧ cloned.shell.execute 1 "cd ./\x1bΣΣ" ⟨6, 0⟩ [] = .ok entered
      ∧ entered.report.success = true
      ∧ entered.shell.execute 1 "npm start" ⟨7, 0⟩ [] = .ok started
      ∧ started.report.success = true
      ∧ Text.linesOf started.report.output
        = ["", "> \x1bσς@1.0.0 start", "> node index.js"] := by
  obtain ⟨shell, hshell⟩ : ∃ shell : Shell, shell = (new .usual .shared {} ⟨0, 0⟩).run
        [(⟨0, 0⟩, .create), (⟨1, 0⟩, .execute 1 "mkdir \"É\\" []),
         (⟨2, 0⟩, .execute 1 "cd \"É\\" [])] := ⟨_, rfl⟩
  have hreach : Reachable shell := ⟨_, _, _, _, _, _, _, hshell⟩
  obtain ⟨begin, hbegin⟩ : ∃ line, line = "npm init -y" := ⟨_, rfl⟩
  obtain ⟨clone, hclone⟩ : ∃ line, line = "git clone http://h/\"\\ ./\x1bΣΣ" := ⟨_, rfl⟩
  have hplaced : ((shell.execute 1 begin ⟨3, 0⟩ []).toOption.map fun executed =>
        (executed.report.success, executed.report.currentDirectory))
      = some (true, "/home/user/\"É\\") := by
    rw [hshell, hbegin]
    decide +kernel
  have hcloned : ((shell.execute 1 clone ⟨5, 0⟩ []).toOption.map fun executed =>
        (executed.report.success, executed.report.currentDirectory))
      = some (true, "/home/user/\"É\\") := by
    rw [hshell, hclone]
    decide +kernel
  obtain ⟨made, hmade, hplaced⟩ := Option.map_eq_some_iff.mp hplaced
  obtain ⟨cloned, hcloned', hcloned⟩ := Option.map_eq_some_iff.mp hcloned
  obtain ⟨hsuccess, hcwd⟩ := Prod.mk.inj hplaced
  obtain ⟨hdone, hstands⟩ := Prod.mk.inj hcloned
  rw [Store.toOption_eq_some_iff] at hmade hcloned'
  have hinit : Text.words (Text.trim begin) = ["npm", "init", "-y"] := by
    rw [hbegin]
    decide +kernel
  have hwords : Text.words (Text.trim clone)
      = ["git", "clone", "http://h/\"\\", "./\x1bΣΣ"] := by
    rw [hclone]
    decide +kernel
  obtain ⟨ran, hran, hran', hlines⟩ := (generated_manifest_runs hreach hmade hsuccess).1 _ hinit []
    (List.forall_mem_nil _) "npm run test" ⟨4, 0⟩ [] ⟨_, by decide +kernel, .run "test" []⟩
  obtain ⟨entered, target, hentered, htarget, hreport, hstart⟩ :=
    (generated_manifest_runs hreach hcloned' hdone).2 _ "http://h/\"\\" "./\x1bΣΣ" [] hwords
      (by decide) "cd ./\x1bΣΣ" ⟨6, 0⟩ [] (by decide +kernel)
  obtain ⟨started, hstarted, hstarted', hshown⟩ :=
    hstart [] (List.forall_mem_nil _) "npm start" ⟨7, 0⟩ [] ⟨_, by decide +kernel, .start []⟩
  have hsmall : Text.lowerCase (Path.fileName "/home/user/\"É\\") = "\"é\\" := by decide +kernel
  have hname : Text.lowerCase (Path.fileName (Path.resolve "/home/user/\"É\\" "./\x1bΣΣ"))
      = "\x1bσς" := by decide +kernel
  rw [hcwd, hsmall] at hlines
  rw [htarget, hstands, hname] at hshown
  subst hbegin hclone
  exact ⟨shell, made, ran, cloned, entered, started, hreach, hmade, hsuccess, hcwd, hran, hran',
    hlines, hcloned', hdone, hentered, by rw [hreport]; rfl, hstarted, hstarted', hshown⟩

end VirtualShell.Shell
