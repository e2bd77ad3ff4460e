import VirtualShell.Command.Archive
import VirtualShell.Command.Compiler
import VirtualShell.Command.Git
import VirtualShell.Command.Network
import VirtualShell.Proofs.Command.Basic

/-!
# The scripts of the simulated tools

Each tool is read here once, as the effects that its scripts can have.

**One file.**  `gcc`, `curl`, `wget`, `tar` and `zip` write a single file, so when they fail they
have done nothing.

**New trees.**  `git` makes directories and files under a place that is not there yet.

**Several places.**  `javac` writes a file beside each source, and `npm` makes directories whose
paths it does not normalise.  These are the two whose scripts cannot always be taken back.
-/

namespace VirtualShell.Command

open VirtualShell.Path (IsNormal IsSegment)

open Store (WellFormed)

variable {call : Invocation} {store : Store} {script : ToolScript}

/-! ## One file -/

/-- A script that writes one file under a normal path. -/
def OneFile (script : ToolScript) : Prop :=
  ∃ path content, IsNormal path
    ∧ (script.effects = [.file path content] ∨ script.effects = [.program path content])

lemma allowed_makeDirectory {path : String} : (Effect.makeDirectory path).Allowed Displays :=
  displays_directoryPermissions

lemma allowed_file {path content : String} : (Effect.file path content).Allowed Displays :=
  ⟨displays_filePermissions, by simp⟩

lemma allowed_program {path content : String} : (Effect.program path content).Allowed Displays :=
  ⟨displays_filePermissions, by simpa using displays_executablePermissions⟩

lemma OneFile.proper (h : OneFile script) : script.Proper := by
  obtain ⟨path, content, hnormal, heffects | heffects⟩ := h
  · rw [ToolScript.Proper, heffects, List.forall_mem_singleton]
    exact ⟨hnormal, allowed_file⟩
  · rw [ToolScript.Proper, heffects, List.forall_mem_singleton]
    exact ⟨hnormal, allowed_program⟩

lemma OneFile.retractable (h : OneFile script) : script.Retractable store := by
  obtain ⟨path, content, -, heffects | heffects⟩ := h
  · exact ToolScript.retractable_of_single heffects
  · exact ToolScript.retractable_of_single heffects

theorem oneFile_gcc (h : script? gcc call store = some script) : OneFile script := by
  simp only [script?, gcc] at h
  split at h
  · simp at h
  · simp at h
  · simp at h
  · rename_i output inputs _ _
    simp only [buildProgram] at h
    split at h
    · simp at h
    · obtain rfl := Option.some.inj h
      exact ⟨_, _, Path.isNormal_resolve _ _, Or.inr rfl⟩

theorem oneFile_curl (h : script? curl call store = some script) : OneFile script := by
  simp only [script?, curl] at h
  split at h
  · simp at h
  · split at h
    · simp at h
    · rw [curlPlan] at h
      dsimp only at h
      split_ifs at h
      · simp at h
      · split at h
        · obtain rfl := Option.some.inj h
          exact ⟨_, _, Path.isNormal_resolve _ _, Or.inl rfl⟩
        · simp at h

theorem oneFile_wget (h : script? wget call store = some script) : OneFile script := by
  simp only [script?, wget] at h
  split at h
  · simp at h
  · split at h
    · simp at h
    · obtain rfl := Option.some.inj h
      exact ⟨_, _, Path.isNormal_resolve _ _, Or.inl rfl⟩

lemma oneFile_tarCreate {verbose : Bool} {archive : String} {operands : List String}
    (h : planned? (tarCreate call store verbose archive operands) = some script) :
    OneFile script := by
  simp only [tarCreate] at h
  split at h
  · simp at h
  · split at h
    · simp at h
    · obtain rfl := Option.some.inj h
      exact ⟨_, _, Path.isNormal_resolve _ _, Or.inl rfl⟩

/-- Reading an archive changes nothing. -/
lemma planned?_tarRead {shown : Bool} {archive : String} :
    planned? (tarRead call store shown archive) = none := by
  simp only [tarRead]
  split <;> rfl

theorem oneFile_tar (h : script? tar call store = some script) : OneFile script := by
  simp only [script?, tar] at h
  split at h
  · rename_i mode archive operands _
    cases hc : (Text.trimStartMatches (fun c => c = '-') mode).toList.contains 'c' with
    | true =>
        simp only [hc, if_true] at h
        exact oneFile_tarCreate h
    | false =>
        simp only [hc, Bool.false_eq_true, if_false] at h
        split at h
        · simp [planned?_tarRead] at h
        · simp at h
  · simp at h

theorem oneFile_zip (h : script? zip call store = some script) : OneFile script := by
  simp only [script?, zip] at h
  split at h
  · simp at h
  · simp at h
  · simp only [zipCreate] at h
    split at h
    · simp at h
    · obtain rfl := Option.some.inj h
      exact ⟨_, _, Path.isNormal_resolve _ _, Or.inl rfl⟩

/-! ## New trees -/

/-- What a clone and a new repository have in common: all paths are in normal form, and files are
written only where there is nothing. -/
structure FreshTree (store : Store) (script : ToolScript) : Prop where
  proper : script.Proper
  normal : ∀ effect ∈ script.effects, IsNormal effect.path
  free : ∀ path content permissions, .write path content permissions ∈ script.effects →
    store.get? path = none

lemma FreshTree.retractable (h : FreshTree store script) : script.Retractable store := by
  intro done failing rest heffects
  have hmem : ∀ effect ∈ done, effect ∈ script.effects := by
    intro effect heffect
    rw [heffects]
    exact List.mem_append_left _ heffect
  refine recoverable_of_normal (fun effect heffect => h.normal effect (hmem effect heffect)) ?_
  intro path content permissions hwrite old text hold
  simp [h.free path content permissions (hmem _ hwrite)] at hold

/-- Where there is no directory there is nothing in it. -/
lemma get?_join_eq_none {dir name : String} (hwell : WellFormed store) (hdir : IsNormal dir)
    (hfree : store.contains dir = false) (hname : IsSegment name.toList) :
    store.get? (Path.join dir name) = none := by
  rw [Store.get?_eq_none_iff]
  intro node hnode hpath
  have hbelow := Path.isBelow_join hdir hname
  rw [← hpath, hwell.not_isBelow_of_get?_eq_none hdir (Store.contains_eq_false_iff.mp hfree)
    hnode] at hbelow
  exact Bool.noConfusion hbelow

lemma freshTree_clone {name target origin : String} (hwell : WellFormed store)
    (htarget : IsNormal target) (hfree : store.contains target = false) :
    FreshTree store (cloneScript name target origin) := by
  have hreadme : IsSegment "README.md".toList := by decide
  have hignore : IsSegment ".gitignore".toList := by decide
  have hmanifest : IsSegment "package.json".toList := by decide
  have hgit : IsSegment ".git".toList := by decide
  refine ⟨?_, ?_, ?_⟩
  · simp only [ToolScript.Proper, cloneScript, List.forall_mem_cons]
    exact ⟨⟨trivial, allowed_makeDirectory⟩, ⟨trivial, allowed_makeDirectory⟩,
      ⟨Path.isNormal_join htarget hreadme, allowed_file⟩,
      ⟨Path.isNormal_join htarget hignore, allowed_file⟩,
      ⟨Path.isNormal_join htarget hmanifest, allowed_file⟩, List.forall_mem_nil _⟩
  · simp only [cloneScript, List.forall_mem_cons]
    exact ⟨htarget, Path.isNormal_join htarget hgit, Path.isNormal_join htarget hreadme,
      Path.isNormal_join htarget hignore, Path.isNormal_join htarget hmanifest,
      List.forall_mem_nil _⟩
  · intro path content permissions hwrite
    simp only [cloneScript, Effect.file, List.mem_cons, reduceCtorEq, Effect.write.injEq,
      List.not_mem_nil, or_false, false_or] at hwrite
    rcases hwrite with ⟨rfl, -⟩ | ⟨rfl, -⟩ | ⟨rfl, -⟩
    · exact get?_join_eq_none hwell htarget hfree hreadme
    · exact get?_join_eq_none hwell htarget hfree hignore
    · exact get?_join_eq_none hwell htarget hfree hmanifest

lemma freshTree_cloneInto {remote name : String} (hwell : WellFormed store)
    (h : planned? (cloneInto call store remote name).1 = some script) :
    FreshTree store script := by
  simp only [cloneInto] at h
  cases hthere : store.contains (call.resolve name) with
  | true => simp [hthere, planned?, Plan.failed] at h
  | false =>
      simp only [hthere, Bool.false_eq_true, if_false] at h
      obtain rfl := Option.some.inj h
      exact freshTree_clone hwell (Path.isNormal_resolve _ _) hthere

lemma freshTree_gitClone {args : List String} (hwell : WellFormed store)
    (h : planned? (gitClone call store args).1 = some script) : FreshTree store script := by
  simp only [gitClone] at h
  split at h
  · simp at h
  · split at h
    · exact freshTree_cloneInto hwell h
    · simp at h
  · exact freshTree_cloneInto hwell h

/-- A repository is begun in an operand, or in the directory that the session is in. -/
lemma gitInit_eq (store : Store) (hcwd : IsNormal call.cwd) (args : List String) :
    ∃ dir known made, IsNormal dir
      ∧ gitInit call store args
        = if store.contains (Path.join dir ".git") then Plan.ok known
          else .perform ⟨made,
            [.makeDirectory dir, .makeDirectory (Path.join dir ".git"),
              .file (Path.join (Path.join dir ".git") "HEAD")
                ("ref: refs/heads/" ++ branchName)]⟩ := by
  simp only [gitInit]
  cases args.find? fun arg => !Text.startsWith "-" arg with
  | none => exact ⟨_, _, _, hcwd, rfl⟩
  | some operand => exact ⟨_, _, _, Path.isNormal_resolve _ _, rfl⟩

lemma freshTree_gitInit {args : List String} (hcwd : IsNormal call.cwd)
    (hwell : WellFormed store) (h : planned? (gitInit call store args) = some script) :
    FreshTree store script := by
  have hhead : IsSegment "HEAD".toList := by decide
  obtain ⟨dir, known, made, hdir, hinit⟩ := gitInit_eq store hcwd args
  have hgitDir : IsNormal (Path.join dir ".git") := Path.isNormal_join hdir (by decide)
  have hheadFile := Path.isNormal_join hgitDir hhead
  rw [hinit] at h
  cases hthere : store.contains (Path.join dir ".git") with
  | true => simp [hthere, planned?, Plan.ok] at h
  | false =>
      simp only [hthere, Bool.false_eq_true, if_false] at h
      obtain rfl := Option.some.inj h
      refine ⟨?_, ?_, ?_⟩
      · simp only [ToolScript.Proper, List.forall_mem_cons]
        exact ⟨⟨trivial, allowed_makeDirectory⟩, ⟨trivial, allowed_makeDirectory⟩,
          ⟨hheadFile, allowed_file⟩, List.forall_mem_nil _⟩
      · simp only [List.forall_mem_cons]
        exact ⟨hdir, hgitDir, hheadFile, List.forall_mem_nil _⟩
      · intro path content permissions hwrite
        simp only [Effect.file, List.mem_cons, reduceCtorEq, Effect.write.injEq,
          List.not_mem_nil, or_false, false_or] at hwrite
        obtain ⟨rfl, -⟩ := hwrite
        exact get?_join_eq_none hwell hgitDir hthere hhead

lemma planned?_gitCommit {args : List String} : planned? (gitCommit args) = none := by
  unfold gitCommit
  dsimp only
  split_ifs <;> rfl

theorem freshTree_git (hcwd : IsNormal call.cwd) (hwell : WellFormed store)
    (h : script? git call store = some script) : FreshTree store script := by
  simp only [script?, git] at h
  split at h
  case h_4 => exact freshTree_gitClone hwell h
  case h_5 => exact freshTree_gitInit hcwd hwell h
  case h_8 => simp [planned?_gitCommit] at h
  -- all other subcommands only speak
  all_goals simp [planned?, Plan.ok, Plan.failed, gitStatus, gitPush, gitLog] at h

/-! ## Several places -/

/-- What a check of all items has made, it has made of one of them. -/
lemma exists_of_mem_mapM {ε α β : Type} {f : α → Except ε β} {items : List α} {made : List β}
    (h : items.mapM f = .ok made) : ∀ result ∈ made, ∃ item ∈ items, f item = .ok result := by
  induction items generalizing made with
  | nil =>
      obtain rfl : made = [] := by simpa [pure, Except.pure, eq_comm] using h
      simp
  | cons item rest ih =>
      rw [List.mapM_cons, bind_eq_ok_iff] at h
      obtain ⟨first, hfirst, hrest⟩ := h
      rw [bind_eq_ok_iff] at hrest
      obtain ⟨more, hmore, hmade⟩ := hrest
      obtain rfl : made = first :: more := by simpa [pure, Except.pure, eq_comm] using hmade
      rw [List.forall_mem_cons]
      refine ⟨⟨item, List.mem_cons_self, hfirst⟩, fun result hresult => ?_⟩
      obtain ⟨later, hlater, heq⟩ := ih hmore result hresult
      exact ⟨later, List.mem_cons_of_mem item hlater, heq⟩

/-- A check that has failed, has failed on one of the items. -/
lemma exists_of_mapM_eq_error {ε α β : Type} {f : α → Except ε β} {items : List α} {fault : ε}
    (h : items.mapM f = .error fault) : ∃ item ∈ items, f item = .error fault := by
  induction items with
  | nil => simp [pure, Except.pure] at h
  | cons item rest ih =>
      rw [List.mapM_cons] at h
      cases hfirst : f item with
      | error first =>
          obtain rfl : first = fault := by simpa [hfirst, bind, Except.bind] using h
          exact ⟨item, List.mem_cons_self, hfirst⟩
      | ok first =>
          cases hrest : rest.mapM f with
          | ok more => simp [hfirst, hrest, bind, Except.bind, pure, Except.pure] at h
          | error later =>
              obtain rfl : later = fault := by simpa [hfirst, hrest, bind, Except.bind] using h
              obtain ⟨found, hfound, heq⟩ := ih hrest
              exact ⟨found, List.mem_cons_of_mem item hfound, heq⟩

lemma classFile_eq_ok {operand : String} {effect : Effect}
    (h : classFile call store operand = .ok effect) :
    ∃ path content, IsNormal path ∧ effect = .file path content := by
  simp only [classFile] at h
  split at h
  · simp at h
  · split at h
    · simp at h
    · simp at h
    · obtain rfl := Except.ok.inj h
      exact ⟨_, _, Path.isNormal_resolve _ _, rfl⟩

/-- A source that cannot be compiled is only complained about. -/
lemma classFile_eq_error {operand : String} {plan : Plan}
    (h : classFile call store operand = .error plan) : planned? plan = none := by
  simp only [classFile] at h
  split at h
  · obtain rfl := Except.error.inj h
    rfl
  · split at h
    · obtain rfl := Except.error.inj h
      rfl
    · obtain rfl := Except.error.inj h
      rfl
    · simp at h

/-- The Java compiler writes files under normal paths. -/
theorem files_javac (h : script? javac call store = some script) :
    ∀ effect ∈ script.effects, ∃ path content, IsNormal path ∧ effect = .file path content := by
  simp only [script?, javac] at h
  split at h
  · simp at h
  · split at h
    · rename_i effects hall
      obtain rfl := Option.some.inj h
      intro effect heffect
      obtain ⟨operand, -, hfile⟩ := exists_of_mem_mapM hall effect heffect
      exact classFile_eq_ok hfile
    · rename_i plan hall
      obtain ⟨operand, -, hfault⟩ := exists_of_mapM_eq_error hall
      simp [classFile_eq_error hfault] at h

/-- Nothing comes of a manifest but words. -/
lemma readManifest_eq_error {plan : Plan} (h : readManifest call store = .error plan) :
    planned? plan = none := by
  simp only [readManifest] at h
  split at h
  · obtain rfl := Except.error.inj h
    rfl
  · rename_i text _
    cases hparse : Json.parse text with
    | ok value => simp [hparse, Except.mapError] at h
    | error fault =>
        obtain rfl : Plan.failed _ = plan := by simpa [hparse, Except.mapError] using h
        rfl

lemma planned?_of_npmRun {name : String} {plan : Plan}
    (h : npmRun call store name = .ok plan ∨ npmRun call store name = .error plan) :
    planned? plan = none := by
  simp only [npmRun] at h
  cases hmanifest : readManifest call store with
  | error fault =>
      obtain rfl : fault = plan := by simpa [hmanifest, bind, Except.bind] using h
      exact readManifest_eq_error hmanifest
  | ok manifest =>
      rw [hmanifest] at h
      cases htext : textMember? (scriptsOf manifest) name with
      | none =>
          obtain rfl : Plan.failed _ = plan := by
            simpa [htext, bind, Except.bind, pure, Except.pure] using h
          rfl
      | some command =>
          obtain rfl : Plan.ok _ = plan := by
            simpa [htext, bind, Except.bind, pure, Except.pure] using h
          rfl

lemma planned?_of_npmScripts {plan : Plan}
    (h : npmScripts call store = .ok plan ∨ npmScripts call store = .error plan) :
    planned? plan = none := by
  simp only [npmScripts] at h
  cases hmanifest : readManifest call store with
  | error fault =>
      obtain rfl : fault = plan := by simpa [hmanifest, bind, Except.bind] using h
      exact readManifest_eq_error hmanifest
  | ok manifest =>
      obtain rfl : Plan.ok _ = plan := by
        simpa [hmanifest, bind, Except.bind, pure, Except.pure] using h
      rfl

lemma directories_npmInstall {args : List String}
    (h : planned? (npmInstall call args) = some script) :
    ∀ effect ∈ script.effects, ∃ path, effect = .makeDirectory path := by
  obtain rfl := Option.some.inj h
  intro effect heffect
  rcases List.mem_cons.mp heffect with rfl | hpackage
  · exact ⟨_, rfl⟩
  · obtain ⟨package, -, rfl⟩ := List.mem_map.mp hpackage
    exact ⟨_, rfl⟩

lemma oneFile_npmInit (h : planned? (npmInit call) = some script) : OneFile script := by
  obtain rfl := Option.some.inj h
  exact ⟨_, _, Path.isNormal_resolve _ _, Or.inl rfl⟩

/-- What `npm` plans, be it as an answer or as a complaint. -/
lemma npmPlan_cases {plan : Plan}
    (h : npmPlan call store = .ok plan ∨ npmPlan call store = .error plan) :
    planned? plan = none ∨ (∃ rest, rest ⊆ call.args ∧ plan = npmInstall call rest)
      ∨ plan = npmInit call := by
  simp only [npmPlan] at h
  split at h
  case h_4 | h_5 | h_6 =>
    rename_i rest hargs
    obtain rfl : npmInstall call rest = plan := by simpa using h
    exact Or.inr (Or.inl ⟨rest, hargs ▸ List.subset_cons_self _ _, rfl⟩)
  case h_7 =>
    obtain rfl : npmInit call = plan := by simpa using h
    exact Or.inr (Or.inr rfl)
  case h_8 | h_9 => exact Or.inl (planned?_of_npmScripts h)
  case h_10 | h_11 | h_12 | h_13 => exact Or.inl (planned?_of_npmRun h)
  all_goals
    obtain rfl : _ = plan := by simpa using h
    exact Or.inl rfl

/-- The package manager of Node writes one file, or makes directories. -/
theorem directories_npm (h : script? npm call store = some script) :
    OneFile script ∨ ∀ effect ∈ script.effects, ∃ path, effect = .makeDirectory path := by
  have hplan : ∀ plan, npmPlan call store = .ok plan ∨ npmPlan call store = .error plan →
      planned? plan = some script →
      OneFile script ∨ ∀ effect ∈ script.effects, ∃ path, effect = .makeDirectory path := by
    intro plan hplan hscript
    rcases npmPlan_cases hplan with hnone | ⟨rest, -, rfl⟩ | rfl
    · simp [hnone] at hscript
    · exact Or.inr (directories_npmInstall hscript)
    · exact Or.inl (oneFile_npmInit hscript)
  simp only [script?, npm] at h
  split at h
  · rename_i plan heq
    exact hplan plan (Or.inl heq) h
  · rename_i plan heq
    exact hplan plan (Or.inr heq) h

/-! ## The tools are gentle -/

lemma proper_of_files
    (h : ∀ effect ∈ script.effects, ∃ path content, IsNormal path ∧ effect = .file path content) :
    script.Proper := by
  intro effect heffect
  obtain ⟨path, content, hnormal, rfl⟩ := h effect heffect
  exact ⟨hnormal, allowed_file⟩

lemma proper_of_directories
    (h : ∀ effect ∈ script.effects, ∃ path, effect = .makeDirectory path) : script.Proper := by
  intro effect heffect
  obtain ⟨path, rfl⟩ := h effect heffect
  exact ⟨trivial, allowed_makeDirectory⟩

theorem gentle_git : Gentle git :=
  gentle_tool fun _ _ _ hcwd hsafe hscript => (freshTree_git hcwd hsafe.tree hscript).proper

theorem gentle_javac : Gentle javac :=
  gentle_tool fun _ _ _ _ _ hscript => proper_of_files (files_javac hscript)

theorem gentle_npm : Gentle npm :=
  gentle_tool fun _ _ _ _ _ hscript =>
    (directories_npm hscript).elim OneFile.proper proper_of_directories

theorem gentle_gcc : Gentle gcc := gentle_tool fun _ _ _ _ _ hscript => (oneFile_gcc hscript).proper

theorem gentle_curl : Gentle curl :=
  gentle_tool fun _ _ _ _ _ hscript => (oneFile_curl hscript).proper

theorem gentle_wget : Gentle wget :=
  gentle_tool fun _ _ _ _ _ hscript => (oneFile_wget hscript).proper

theorem gentle_tar : Gentle tar := gentle_tool fun _ _ _ _ _ hscript => (oneFile_tar hscript).proper

theorem gentle_zip : Gentle zip := gentle_tool fun _ _ _ _ _ hscript => (oneFile_zip hscript).proper

/-- No host is reached, so nothing is written. -/
theorem gentle_ssh : Gentle ssh := by
  refine gentle_tool fun call store script _ _ hscript => ?_
  simp only [script?] at hscript
  split at hscript <;> simp at hscript

end VirtualShell.Command
