import VirtualShell.Proofs.Command.Archive
import VirtualShell.Proofs.Command.RemoteNames
import VirtualShell.Proofs.Json.Reading

/-!
# Manifests

`npm init` and `git clone` write a manifest, and `npm` reads one when it runs a script.  The two
writers splice in texts that a user has chosen: the name of a directory and the address of a remote.
Both come back as they were (`Offers`), so a script of the manifest is shown under the name that was
written (`npm_shows`), and the two writers leave the file where the reader looks for it
(`npm_init_writes`, `git_clone_writes`).
-/

namespace VirtualShell.Command

open VirtualShell.Path (IsNormal IsSegment)

open Store (WellFormed)

variable {call : Invocation} {store : Store} {draws : Draws} {manifest : Json.Value}
  {name version script line remote dir : String} {rest more : List String}

/-! ## What a manifest offers -/

/-- A manifest that is read back as it was written, and has in it a name, a version and the command
line of a script. -/
structure Offers (manifest : Json.Value) (name version script line : String) : Prop where
  readable : Json.Readable Json.maxDepth manifest
  named : textMember? manifest "name" = some name
  versioned : textMember? manifest "version" = some version
  scripted : textMember? (scriptsOf manifest) script = some line

/-- The manifest of a new package offers a test. -/
theorem offers_newManifest (dir : String) :
    Offers (newManifest dir) (Text.lowerCase (Path.fileName dir)) "1.0.0" "test" noTestScript := by
  constructor
  case readable =>
    refine Json.Readable.ofMembers ?_
    simp only [List.forall_mem_cons]
    refine ⟨.string _, .string _, .string _, .string _, .ofMembers ?_, .array ?_, .string _,
      .string _, List.forall_mem_nil _⟩
    · exact List.forall_mem_singleton.mpr (.string _)
    · exact List.forall_mem_nil _
  all_goals simp [newManifest, textMember?, scriptsOf, Json.member?_ofMembers, Json.Value.text?]

lemma readable_clonedManifest (title origin : String) :
    Json.Readable Json.maxDepth (clonedManifest title origin) := by
  refine Json.Readable.ofMembers ?_
  simp only [List.forall_mem_cons]
  refine ⟨.string _, .string _, .string _, .string _, .ofMembers ?_, .string _,
    List.forall_mem_nil _⟩
  simp only [List.forall_mem_cons]
  exact ⟨.string _, .string _, List.forall_mem_nil _⟩

/-- The manifest of a clone offers to start the program. -/
theorem offers_clonedManifest (title origin : String) :
    Offers (clonedManifest title origin) (Text.lowerCase title) "1.0.0" "start"
      "node index.js" := by
  refine ⟨readable_clonedManifest title origin, ?_, ?_, ?_⟩
  all_goals simp [clonedManifest, textMember?, scriptsOf, Json.member?_ofMembers, Json.Value.text?]

/-! ## Running a script -/

/-- The arguments with which `npm` runs a script. -/
inductive RunsScript : String → List String → Prop where
  | run (script : String) (more : List String) : RunsScript script ("run" :: script :: more)
  | runScript (script : String) (more : List String) :
      RunsScript script ("run-script" :: script :: more)
  | start (more : List String) : RunsScript "start" ("start" :: more)
  | test (more : List String) : RunsScript "test" ("test" :: more)

/-- What is shown of a script: an empty line, the package with the script, and the command line. -/
def scriptLines (name version script line : String) : List String :=
  ["", "> " ++ name ++ "@" ++ version ++ " " ++ script, "> " ++ line]

lemma unlines_scriptLines (name version script line : String) :
    Text.unlines (scriptLines name version script line)
      = "\n> " ++ name ++ "@" ++ version ++ " " ++ script ++ "\n> " ++ line ++ "\n" := by
  apply String.toList_inj.mp
  simp [Text.unlines, scriptLines]

/-- What is shown of a script is read back line by line, if nothing in it breaks a line. -/
lemma linesOf_unlines_scriptLines (hname : '\n' ∉ name.toList ∧ '\r' ∉ name.toList)
    (hrest : ∀ text ∈ [version, script, line], '\n' ∉ text.toList ∧ '\r' ∉ text.toList) :
    Text.linesOf (Text.unlines (scriptLines name version script line))
      = scriptLines name version script line := by
  refine Text.linesOf_unlines ?_
  simp only [List.forall_mem_cons] at hrest
  simp [scriptLines, hname, hrest]

lemma npmPlan_of_runsScript (h : RunsScript script call.args) :
    npmPlan call store = npmRun call store script := by
  generalize hargs : call.args = args at h
  cases h <;> simp only [npmPlan, hargs]

/-- **A script is shown under the name of its package**, if the manifest of the working directory
offers it. -/
theorem npm_shows (draws : Draws) (hargs : RunsScript script call.args)
    (hwritten : fileText? store (manifestPath call) = some manifest.indented)
    (h : Offers manifest name version script line) :
    npm.run call store draws
      = ⟨.ok (Text.unlines (scriptLines name version script line)), call.session, store, draws,
          []⟩ := by
  have hread : readManifest call store = .ok manifest := by
    rw [fileText?] at hwritten
    rw [readManifest, hwritten]
    simp only [Json.parse_indented h.readable, Except.mapError]
  have hrun : npmRun call store script
      = .ok (.ok (Text.unlines (scriptLines name version script line))) := by
    rw [npmRun, hread]
    simp only [bind, Except.bind, pure, Except.pure, h.named, h.versioned, h.scripted,
      Option.getD_some, unlines_scriptLines]
  simp only [npm, run, npmPlan_of_runsScript hargs, hrun, Plan.ok]

/-! ## Writing a manifest -/

/-- `npm init` leaves the manifest of the working directory. -/
theorem npm_init_writes (hargs : call.args = "init" :: rest)
    (hsuccess : ((npm.run call store draws).verdict.toReply "npm").success = true) :
    fileText? (npm.run call store draws).store (manifestPath call)
      = some (newManifest call.cwd).indented := by
  obtain ⟨script, hscript, heffects⟩ : ∃ script, script? npm call store = some script
      ∧ script.effects = [.file (manifestPath call) (newManifest call.cwd).indented] := by
    simp only [script?, npm, npmPlan, hargs, npmInit]
    exact ⟨_, rfl, rfl⟩
  exact (run_file "npm" draws hscript heffects (Path.isNormal_resolve _ _) hsuccess).2

lemma resolve_manifest (h : IsNormal dir) :
    Path.resolve dir "package.json" = Path.join dir "package.json" :=
  Path.resolve_name h (by decide) (by decide)

/-- Where there is a manifest there is a directory. -/
lemma isDirectory_of_manifest {text : String} (hwell : WellFormed store) (hdir : IsNormal dir)
    (h : fileText? store (Path.resolve dir "package.json") = some text) :
    store.isDirectory dir = true := by
  obtain ⟨node, hnode, -⟩ := Option.bind_eq_some_iff.mp h
  refine hwell.isDirectory_of_isBelow (Store.mem_of_get? hnode) hdir ?_
  rw [Store.path_of_get? hnode, resolve_manifest hdir]
  exact Path.isBelow_join hdir (by decide)

/-- `git clone` into a directory leaves the manifest of a clone there. -/
theorem git_clone_writes (hargs : call.args = "clone" :: rest)
    (hoperands : (rest.filter fun arg => !Text.startsWith "-" arg) = remote :: dir :: more)
    (hwell : WellFormed store) (hcwd : IsNormal call.cwd)
    (hsuccess : ((git.run call store draws).verdict.toReply "git").success = true) :
    fileText? (git.run call store draws).store (Path.resolve (call.resolve dir) "package.json")
      = some (clonedManifest (Path.fileName (call.resolve dir))
          (Log.stripCredentials remote)).indented := by
  have hclone : gitClone call store rest = cloneInto call store remote dir := by
    simp only [gitClone, hoperands]
  obtain ⟨-, hscript⟩ := script?_git_of_cloneInto hargs hclone hsuccess
  have hproper := (freshTree_git hcwd hwell hscript).proper
  obtain ⟨last, hcarried, hstore⟩ :=
    exists_carried_of_success hscript (fun effect heffect => (hproper effect heffect).1) hsuccess
  have htarget : IsNormal (call.resolve dir) := Path.isNormal_resolve _ _
  have hnormal : IsNormal (Path.join (call.resolve dir) "package.json") :=
    Path.isNormal_join htarget (by decide)
  -- the manifest is the last of the files
  obtain ⟨node, hnode, hbody⟩ := hcarried.body_of_last rfl hnormal
  rw [resolve_manifest htarget, hstore, fileText?, hnode, Option.bind_some, hbody]
  rfl

end VirtualShell.Command
