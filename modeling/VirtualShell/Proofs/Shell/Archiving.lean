import VirtualShell.Proofs.Command.Archive
import VirtualShell.Proofs.Shell.Unspaced
import VirtualShell.Proofs.Shell.WorkingDirectory

/-!
# Archives in a shell

What `tar` prints when it makes an archive, and what a later line with `tar` prints of it; and the
same of `zip` and `unzip`.  Making an archive takes no directory away, so the later line is read
where the first one was, and the operand that named the archive names it again.

`zip` adds the ending to a name that has none, and `unzip` opens the name as it is given, if that is
a file.  So the two part where a file has the name without its ending (`unzip_reports_packed`).
-/

namespace VirtualShell.Shell

open Time (Instant)

open Command (Packed linesIn)

variable {shell : Shell} {id : Nat} {seat : Seat} {line mode archive name text : String}
  {args operands files : List String} {now : Instant} {draws : Draws} {executed : Executed}

/-! ## Tar -/

/-- What a line leaves that has made an archive: the session stays in its directory, where the name
of the archive leads to the lines that have been shown. -/
lemma tar_creates (hreach : shell.Reachable) (hseat : shell.seat? id = some seat)
    (hwords : Text.words (Text.trim line) = "tar" :: mode :: archive :: operands)
    (hc : 'c' ∈ mode.toList) (hv : 'v' ∈ mode.toList)
    (hexecute : shell.execute id line now draws = .ok executed)
    (hsuccess : executed.report.success = true) :
    ∃ groups after,
      List.Forall₂ (Packed (shell.storeOf seat) executed.report.currentDirectory) operands groups
      ∧ executed.report
        = ⟨.ok ("\n".intercalate (linesIn groups)), executed.report.currentDirectory⟩
      ∧ executed.shell.seat? id = some after
      ∧ after.session.cwd = executed.report.currentDirectory
      ∧ (executed.shell.storeOf after).isDirectory after.session.cwd = true
      ∧ Command.fileText? (executed.shell.storeOf after) (Path.resolve after.session.cwd archive)
        = some (Command.archiveText (linesIn groups)) := by
  have hfind : Registry.builtin.find? "tar" = some Command.tar := rfl
  obtain ⟨ran, after, hran, hreport, hafter, hsame, hdir, hthere⟩ :=
    execute_gentle hreach hseat hwords hfind Command.gentle_tar (by decide) hexecute
  have hcall := (hreach.unspaced_called now hseat hwords).1
  rw [hreport] at hsuccess
  obtain ⟨groups, hgroups, hverdict, htext⟩ := Command.tar_created "tar" draws hcall
    (Text.ne_empty_of_words hwords) (hreach.safe hseat).tree (hreach.unspaced hseat) rfl hc hv
    (hran ▸ hsuccess)
  rw [← hran] at hverdict htext
  rw [hverdict] at hreport
  rw [hreport]
  refine ⟨groups, after, hgroups, rfl, hafter, hdir, ?_, ?_⟩
  · rw [hsame, hdir]
    exact hthere
  · rw [hsame, hdir]
    exact htext

/-- What a line reports that lists an archive. -/
lemma tar_lists {lines : List String} (hreach : shell.Reachable)
    (hseat : shell.seat? id = some seat)
    (hwords : Text.words (Text.trim line) = "tar" :: mode :: archive :: operands)
    (hc : 'c' ∉ mode.toList) (ht : 't' ∈ mode.toList)
    (hcwd : (shell.storeOf seat).isDirectory seat.session.cwd = true)
    (htext : Command.fileText? (shell.storeOf seat) (Path.resolve seat.session.cwd archive)
      = some (Command.archiveText lines))
    (hlines : ∀ line ∈ lines, Text.IsLine line)
    (hexecute : shell.execute id line now draws = .ok executed) :
    executed.report = ⟨.ok ("\n".intercalate lines), seat.session.cwd⟩ := by
  have hfind : Registry.builtin.find? "tar" = some Command.tar := rfl
  obtain ⟨ran, -, hran, hreport, -⟩ :=
    execute_gentle hreach hseat hwords hfind Command.gentle_tar (by decide) hexecute
  have hdir := called_cwd_of_isDirectory hcwd line "tar" (mode :: archive :: operands) now
  have hread : Command.fileText? (shell.storeOf seat)
      ((shell.called seat line "tar" (mode :: archive :: operands) now).resolve archive)
        = some (Command.archiveText lines) := by
    rw [← htext, ← hdir]
    rfl
  have hverdict := (Command.tar_listed draws rfl hc ht hread hlines).1
  rw [hreport, hran, hverdict, hdir]
  rfl

/-- **Listing an archive shows what making it has shown.**  If `tar` has made an archive and shown
what it put in, then the lines are those of the operands, each the node that it names and all below
it; and `tar` that lists the archive in the next line gives the same report. -/
theorem tar_lists_created (hreach : shell.Reachable) (hseat : shell.seat? id = some seat)
    (hwords : Text.words (Text.trim line) = "tar" :: mode :: archive :: operands)
    (hc : 'c' ∈ mode.toList) (hv : 'v' ∈ mode.toList)
    (hexecute : shell.execute id line now draws = .ok executed)
    (hsuccess : executed.report.success = true) :
    (∃ groups, List.Forall₂ (Packed (shell.storeOf seat) executed.report.currentDirectory) operands
        groups
      ∧ executed.report.output = "\n".intercalate (linesIn groups)
      ∧ Text.linesOf executed.report.output = linesIn groups)
    ∧ ∀ next letters more later (moreDraws : Draws),
      Text.words (Text.trim next) = "tar" :: letters :: archive :: more →
      't' ∈ letters.toList → 'c' ∉ letters.toList →
        ∃ listed, executed.shell.execute id next later moreDraws = .ok listed
          ∧ listed.report = executed.report := by
  obtain ⟨groups, after, hgroups, hreport, hafter, hstands, hthere, htext⟩ :=
    tar_creates hreach hseat hwords hc hv hexecute hsuccess
  have hlines := Command.isLine_of_mem_linesIn hgroups
  have houtput : executed.report.output = "\n".intercalate (linesIn groups) := by
    rw [hreport]
    rfl
  refine ⟨⟨groups, hgroups, houtput, houtput ▸ Text.linesOf_intercalate hlines⟩, ?_⟩
  intro next letters more later moreDraws hnext ht hnot
  obtain ⟨listed, hlisted, -⟩ := exists_executed next later moreDraws hafter
  refine ⟨listed, hlisted, ?_⟩
  rw [tar_lists (hreach.executed hexecute) hafter hnext hnot ht hthere htext hlines hlisted,
    hreport, hstands]

/-- The archive takes the place of a file that it lists, once below a directory and once by itself,
and all is spelled with more slashes and steps than it needs. -/
theorem tar_lists_created_of_own_member :
    ∃ shell seat executed groups listed, Reachable shell ∧ shell.seat? 1 = some seat
      ∧ shell.execute 1 "tar -cvf a/x ~/a// a/../a/x/" ⟨3, 0⟩ [] = .ok executed
      ∧ executed.report.success = true
      ∧ List.Forall₂ (Packed (shell.storeOf seat) "/home/user") ["~/a//", "a/../a/x/"] groups
      ∧ linesIn groups = ["~/a/", "~/a/x", "a/../a/x"]
      ∧ executed.shell.execute 1 "tar tf a/x" ⟨4, 0⟩ [] = .ok listed
      ∧ listed.report = executed.report := by
  obtain ⟨shell, hshell⟩ : ∃ shell : Shell, shell = (new .usual .shared {} ⟨0, 0⟩).run
        [(⟨0, 0⟩, .create), (⟨1, 0⟩, .execute 1 "mkdir a" []),
         (⟨2, 0⟩, .execute 1 "touch a/x" [])] := ⟨_, rfl⟩
  have hreach : Reachable shell := ⟨_, _, _, _, _, _, _, hshell⟩
  obtain ⟨line, hline⟩ : ∃ line, line = "tar -cvf a/x ~/a// a/../a/x/" := ⟨_, rfl⟩
  have hfacts : (shell.seat? 1).map (fun _ =>
      (shell.execute 1 line ⟨3, 0⟩ []).toOption.map fun executed =>
        (executed.report.success, executed.report.currentDirectory,
          Text.linesOf executed.report.output))
      = some (some (true, "/home/user", ["~/a/", "~/a/x", "a/../a/x"])) := by
    rw [hshell, hline]
    decide +kernel
  obtain ⟨seat, hseat, hfacts⟩ := Option.map_eq_some_iff.mp hfacts
  obtain ⟨executed, hexecute, -⟩ := exists_executed line ⟨3, 0⟩ [] hseat
  simp only [hexecute, Except.toOption, Option.map_some, Prod.mk.injEq, Option.some_inj] at hfacts
  obtain ⟨hsuccess, hcwd, hshown⟩ := hfacts
  have hwords : Text.words (Text.trim line) = ["tar", "-cvf", "a/x", "~/a//", "a/../a/x/"] := by
    rw [hline]
    decide +kernel
  obtain ⟨⟨groups, hgroups, -, hlines⟩, hagain⟩ :=
    tar_lists_created hreach hseat hwords (by decide) (by decide) hexecute hsuccess
  obtain ⟨listed, hlisted, hsame⟩ :=
    hagain "tar tf a/x" "tf" [] ⟨4, 0⟩ [] (by decide +kernel) (by decide) (by decide)
  rw [hcwd] at hgroups
  subst hline
  exact ⟨shell, seat, executed, groups, listed, hreach, hseat, hexecute, hsuccess, hgroups,
    hlines.symm.trans hshown, hlisted, hsame⟩

/-! ## Zip -/

/-- What a line leaves that has packed an archive: the session stays in its directory, where the
name of the archive with its ending leads to the entries that have been reported. -/
lemma zip_packs (hreach : shell.Reachable) (hseat : shell.seat? id = some seat)
    (hwords : Text.words (Text.trim line) = "zip" :: args)
    (hoperands : (args.filter fun arg => !Text.startsWith "-" arg) = archive :: files)
    (hexecute : shell.execute id line now draws = .ok executed)
    (hsuccess : executed.report.success = true) :
    ∃ groups after,
      List.Forall₂ (Packed (shell.storeOf seat) executed.report.currentDirectory) files groups
      ∧ executed.report.output = "\n".intercalate ((linesIn groups).map Command.addedLine)
      ∧ executed.shell.seat? id = some after
      ∧ after.session.cwd = executed.report.currentDirectory
      ∧ (executed.shell.storeOf after).isDirectory after.session.cwd = true
      ∧ Command.fileText? (executed.shell.storeOf after)
          (Path.resolve after.session.cwd (Command.zipName archive))
        = some (Command.archiveText (linesIn groups)) := by
  have hfind : Registry.builtin.find? "zip" = some Command.zip := rfl
  obtain ⟨ran, after, hran, hreport, hafter, hsame, hdir, hthere⟩ :=
    execute_gentle hreach hseat hwords hfind Command.gentle_zip (by decide) hexecute
  have hcall := (hreach.unspaced_called now hseat hwords).1
  rw [hreport] at hsuccess
  obtain ⟨groups, hgroups, hverdict, htext⟩ := Command.zip_created "zip" draws hcall
    (Text.ne_empty_of_words hwords) (hreach.safe hseat).tree (hreach.unspaced hseat) hoperands
    (hran ▸ hsuccess)
  rw [← hran] at hverdict htext
  rw [hverdict] at hreport
  rw [hreport]
  refine ⟨groups, after, hgroups, rfl, hafter, hdir, ?_, ?_⟩
  · rw [hsame, hdir]
    exact hthere
  · rw [hsame, hdir]
    exact htext

/-- What a line reports that opens an archive. -/
lemma unzip_reports (hreach : shell.Reachable) (hseat : shell.seat? id = some seat)
    (hwords : Text.words (Text.trim line) = "unzip" :: args)
    (harchive : (args.find? fun arg => !Text.startsWith "-" arg) = some archive)
    (hcwd : (shell.storeOf seat).isDirectory seat.session.cwd = true)
    (hopens : Command.Opens (shell.storeOf seat) seat.session.cwd archive name text)
    (hexecute : shell.execute id line now draws = .ok executed) :
    executed.report
      = ⟨.ok ("\n".intercalate (("Archive:  " ++ name)
          :: (Command.readArchive text).map Command.unzipLine)), seat.session.cwd⟩ := by
  have hfind : Registry.builtin.find? "unzip" = some Command.unzip := rfl
  obtain ⟨ran, -, hran, hreport, -⟩ :=
    execute_gentle hreach hseat hwords hfind (Command.gentle_inspect _) (by decide) hexecute
  have hdir := called_cwd_of_isDirectory hcwd line "unzip" args now
  have hcall : Command.Opens (shell.storeOf seat) (shell.called seat line "unzip" args now).cwd
      archive name text := hdir ▸ hopens
  rw [hreport, hran, Command.unzip_opened draws harchive hcall, hdir]
  rfl

/-- **What opening an archive reports of what has been packed.**  If `zip` succeeds, it reports the
entries of its operands, none of them empty or broken, and `unzip` with the same name succeeds in
the next line.  It reports the same entries in the same order, if the name has its ending or no file
has the name as it was given.  A file of that name is opened instead, be it an archive or not. -/
theorem unzip_reports_packed (hreach : shell.Reachable) (hseat : shell.seat? id = some seat)
    (hwords : Text.words (Text.trim line) = "zip" :: args)
    (hoperands : (args.filter fun arg => !Text.startsWith "-" arg) = archive :: files)
    (hexecute : shell.execute id line now draws = .ok executed)
    (hsuccess : executed.report.success = true) :
    ∃ groups after,
      List.Forall₂ (Packed (shell.storeOf seat) executed.report.currentDirectory) files groups
      ∧ executed.report.output = "\n".intercalate ((linesIn groups).map Command.addedLine)
      ∧ (∀ entry ∈ linesIn groups, Text.IsLine entry)
      ∧ executed.shell.store? id = some after
      ∧ ∀ next more later (moreDraws : Draws),
        Text.words (Text.trim next) = "unzip" :: more →
        (more.find? fun arg => !Text.startsWith "-" arg) = some archive →
          ∃ opened, executed.shell.execute id next later moreDraws = .ok opened
            ∧ opened.report.success = true
            ∧ opened.report.currentDirectory = executed.report.currentDirectory
            ∧ ((Text.endsWith ".zip" archive = true
                ∨ Command.fileText? after
                  (Path.resolve executed.report.currentDirectory archive) = none) →
              opened.report.output = "\n".intercalate (("Archive:  " ++ Command.zipName archive)
                :: (linesIn groups).map Command.unzipLine))
            ∧ ∀ text, Text.endsWith ".zip" archive = false →
              Command.fileText? after
                (Path.resolve executed.report.currentDirectory archive) = some text →
              opened.report.output = "\n".intercalate (("Archive:  " ++ archive)
                :: (Command.readArchive text).map Command.unzipLine) := by
  obtain ⟨groups, after, hgroups, houtput, hafter, hstands, hthere, htext⟩ :=
    zip_packs hreach hseat hwords hoperands hexecute hsuccess
  have hlines := Command.isLine_of_mem_linesIn hgroups
  have hstore : executed.shell.store? id = some (executed.shell.storeOf after) := by
    rw [store?, hafter, Option.map_some]
  refine ⟨groups, executed.shell.storeOf after, hgroups, houtput, hlines, hstore, ?_⟩
  intro next more later moreDraws hnext hsame
  obtain ⟨opened, hopened, -⟩ := exists_executed next later moreDraws hafter
  -- whichever file is opened, it is the one that the report is about
  have hreports : ∀ name text,
      Command.Opens (executed.shell.storeOf after) after.session.cwd archive name text →
      opened.report = ⟨.ok ("\n".intercalate (("Archive:  " ++ name)
          :: (Command.readArchive text).map Command.unzipLine)), after.session.cwd⟩ :=
    fun name text hopens =>
      unzip_reports (hreach.executed hexecute) hafter hnext hsame hthere hopens hopened
  have hpacked : Text.endsWith ".zip" archive = true
      ∨ Command.fileText? (executed.shell.storeOf after)
        (Path.resolve after.session.cwd archive) = none →
      Command.Opens (executed.shell.storeOf after) after.session.cwd archive
        (Command.zipName archive) (Command.archiveText (linesIn groups)) :=
    Command.opens_zipName htext
  have hgiven : ∀ text, Command.fileText? (executed.shell.storeOf after)
      (Path.resolve after.session.cwd archive) = some text →
      Command.Opens (executed.shell.storeOf after) after.session.cwd archive archive text :=
    fun text hfile => ⟨hfile, Or.inl rfl⟩
  obtain ⟨name, text, hopens⟩ : ∃ name text,
      Command.Opens (executed.shell.storeOf after) after.session.cwd archive name text := by
    cases hfile : Command.fileText? (executed.shell.storeOf after)
        (Path.resolve after.session.cwd archive) with
    | none => exact ⟨_, _, hpacked (Or.inr hfile)⟩
    | some text => exact ⟨_, _, hgiven text hfile⟩
  rw [← hstands]
  refine ⟨opened, hopened, ?_, ?_, fun hfree => ?_, fun text _ hfile => ?_⟩
  · rw [hreports name text hopens]
    rfl
  · rw [hreports name text hopens]
  · rw [hreports _ _ (hpacked hfree), Command.readArchive_archiveText hlines]
    rfl
  · rw [hreports _ _ (hgiven text hfile)]
    rfl

/-- A directory has the name of the archive without its ending, and is itself put into it. -/
theorem unzip_reports_packed_beside_directory :
    ∃ shell seat executed groups opened, Reachable shell ∧ shell.seat? 1 = some seat
      ∧ shell.execute 1 "zip -r d d ~/.bashrc" ⟨3, 0⟩ [] = .ok executed
      ∧ executed.report.success = true
      ∧ List.Forall₂ (Packed (shell.storeOf seat) "/home/user") ["d", "~/.bashrc"] groups
      ∧ Text.linesOf executed.report.output = ["  adding: d/ (stored 0%)",
          "  adding: d/f (stored 0%)", "  adding: ~/.bashrc (stored 0%)"]
      ∧ executed.report.output = "\n".intercalate ((linesIn groups).map Command.addedLine)
      ∧ executed.shell.execute 1 "unzip d" ⟨4, 0⟩ [] = .ok opened
      ∧ opened.report.output
        = "\n".intercalate ("Archive:  d.zip" :: (linesIn groups).map Command.unzipLine) := by
  obtain ⟨shell, hshell⟩ : ∃ shell : Shell, shell = (new .usual .shared {} ⟨0, 0⟩).run
        [(⟨0, 0⟩, .create), (⟨1, 0⟩, .execute 1 "mkdir d" []),
         (⟨2, 0⟩, .execute 1 "touch d/f" [])] := ⟨_, rfl⟩
  have hreach : Reachable shell := ⟨_, _, _, _, _, _, _, hshell⟩
  obtain ⟨line, hline⟩ : ∃ line, line = "zip -r d d ~/.bashrc" := ⟨_, rfl⟩
  have hfacts : (shell.seat? 1).map (fun _ =>
      (shell.execute 1 line ⟨3, 0⟩ []).toOption.map fun executed =>
        (executed.report.success, executed.report.currentDirectory,
          Text.linesOf executed.report.output,
          (executed.shell.store? 1).all fun after =>
            (Command.fileText? after "/home/user/d").isNone))
      = some (some (true, "/home/user", ["  adding: d/ (stored 0%)", "  adding: d/f (stored 0%)",
          "  adding: ~/.bashrc (stored 0%)"], true)) := by
    rw [hshell, hline]
    decide +kernel
  obtain ⟨seat, hseat, hfacts⟩ := Option.map_eq_some_iff.mp hfacts
  obtain ⟨executed, hexecute, -⟩ := exists_executed line ⟨3, 0⟩ [] hseat
  simp only [hexecute, Except.toOption, Option.map_some, Prod.mk.injEq, Option.some_inj] at hfacts
  obtain ⟨hsuccess, hcwd, hshown, hfree⟩ := hfacts
  have hwords : Text.words (Text.trim line) = ["zip", "-r", "d", "d", "~/.bashrc"] := by
    rw [hline]
    decide +kernel
  have hoperands : (["-r", "d", "d", "~/.bashrc"].filter fun arg => !Text.startsWith "-" arg)
      = "d" :: ["d", "~/.bashrc"] := by decide
  obtain ⟨groups, after, hgroups, houtput, -, hstore, hnext⟩ :=
    unzip_reports_packed hreach hseat hwords hoperands hexecute hsuccess
  obtain ⟨opened, hopened, -, -, hpacked, -⟩ :=
    hnext "unzip d" ["d"] ⟨4, 0⟩ [] (by decide +kernel) (by decide)
  have hplace : Path.resolve "/home/user" "d" = "/home/user/d" := by decide
  rw [hstore, Option.all_some, Option.isNone_iff_eq_none] at hfree
  rw [hcwd] at hgroups hpacked
  have hreported := hpacked (Or.inr (hplace ▸ hfree))
  subst hline
  exact ⟨shell, seat, executed, groups, opened, hreach, hseat, hexecute, hsuccess, hgroups, hshown,
    houtput, hopened, hreported⟩

/-- An archive that has the name without its ending is opened in place of the one just packed. -/
theorem earlier_archive_opened :
    ∃ shell packed opened, Reachable shell
      ∧ shell = (new .usual .shared {} ⟨0, 0⟩).run
          [(⟨0, 0⟩, .create), (⟨1, 0⟩, .execute 1 "touch a b" []),
           (⟨2, 0⟩, .execute 1 "tar -cf x a" [])]
      ∧ shell.execute 1 "zip x b" ⟨3, 0⟩ [] = .ok packed
      ∧ packed.report = ⟨.ok "  adding: b (stored 0%)", "/home/user"⟩
      ∧ packed.shell.execute 1 "unzip x" ⟨4, 0⟩ [] = .ok opened
      ∧ opened.report = ⟨.ok "Archive:  x\n  inflating: a", "/home/user"⟩ := by
  obtain ⟨shell, hshell⟩ : ∃ shell : Shell, shell = (new .usual .shared {} ⟨0, 0⟩).run
        [(⟨0, 0⟩, .create), (⟨1, 0⟩, .execute 1 "touch a b" []),
         (⟨2, 0⟩, .execute 1 "tar -cf x a" [])] := ⟨_, rfl⟩
  have hreports : (shell.execute 1 "zip x b" ⟨3, 0⟩ []).toOption.bind (fun packed =>
      (packed.shell.execute 1 "unzip x" ⟨4, 0⟩ []).toOption.map fun opened =>
        (packed.report, opened.report))
      = some (⟨.ok "  adding: b (stored 0%)", "/home/user"⟩,
          ⟨.ok "Archive:  x\n  inflating: a", "/home/user"⟩) := by
    rw [hshell]
    decide +kernel
  obtain ⟨packed, hpacked, hreports⟩ := Option.bind_eq_some_iff.mp hreports
  obtain ⟨opened, hopened, hreports⟩ := Option.map_eq_some_iff.mp hreports
  obtain ⟨hfirst, hsecond⟩ := Prod.mk.inj hreports
  exact ⟨shell, packed, opened, ⟨_, _, _, _, _, _, _, hshell⟩, hshell,
    Store.toOption_eq_some_iff.mp hpacked, hfirst, Store.toOption_eq_some_iff.mp hopened, hsecond⟩

end VirtualShell.Shell
