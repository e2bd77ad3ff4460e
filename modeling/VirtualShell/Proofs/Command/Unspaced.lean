import VirtualShell.Proofs.Command.Chmod
import VirtualShell.Proofs.Command.Copy
import VirtualShell.Proofs.Command.Events
import VirtualShell.Proofs.Command.RemoteNames
import VirtualShell.Proofs.Store.Unspaced
import VirtualShell.Proofs.Url.Unspaced

/-!
# Commands and blanks

What a command creates stands at a path that is made from its arguments and the working directory.
Arguments are words, so no command brings a path with a blank into a namespace (`KeepsUnspaced`).

**Editing.**  The operands of `mkdir`, `touch`, `echo`, `cp` and `mv` are arguments, or, for a
redirection, cut out of one.

**Tools.**  Here it comes down to the places of a script (`keepsUnspaced_tool`); taking effects back
makes nothing new.  Two tools name a place by an address, whose path keeps out blanks of its own
accord.
-/

namespace VirtualShell

open Store (Safe)

/-- What a command is called with has no blank in it. -/
structure Invocation.Unspaced (call : Invocation) : Prop where
  args : ∀ arg ∈ call.args, Text.Unspaced arg.toList
  cwd : Text.Unspaced call.cwd.toList

variable {call : Invocation} {store after : Store}

lemma Invocation.Unspaced.resolve {raw : String} (h : call.Unspaced)
    (hraw : Text.Unspaced raw.toList) : Text.Unspaced (call.resolve raw).toList :=
  Path.unspaced_resolve h.cwd hraw

namespace Command

/-- A command that brings no blank into a path. -/
def KeepsUnspaced (command : Command) : Prop :=
  ∀ call store draws, Invocation.Unspaced call → Safe store → store.Unspaced →
    (command.run call store draws).store.Unspaced

lemma keepsUnspaced_inspect (answer : Invocation → Store → Verdict) :
    KeepsUnspaced (.inspect answer) := fun _ _ _ _ _ h => h

lemma keepsUnspaced_monitor (answer : Invocation → Draws → Verdict × Draws) :
    KeepsUnspaced (.monitor answer) := fun _ _ _ _ _ h => h

lemma keepsUnspaced_navigate (answer : Invocation → Store → Verdict × Option String) :
    KeepsUnspaced (.navigate answer) := by
  intro call store draws _ _ h
  simp only [run]
  split <;> exact h

/-! ## Editing -/

lemma mem_of_splitFlags {allowed : String} {args : List String} {arguments : Arguments}
    (h : splitFlags allowed args = .ok arguments) : arguments.operands ⊆ args := by
  induction args generalizing arguments with
  | nil => exact Except.ok.inj h ▸ List.nil_subset _
  | cons arg rest ih =>
      simp only [splitFlags] at h
      split at h
      · split at h
        · simp at h
        · obtain ⟨more, hmore, hdone⟩ := bind_eq_ok_iff.mp h
          obtain rfl := Except.ok.inj hdone
          have hrest : more.operands ⊆ rest := ih hmore
          exact List.subset_cons_of_subset arg hrest
      · obtain ⟨more, hmore, hdone⟩ := bind_eq_ok_iff.mp h
        obtain rfl := Except.ok.inj hdone
        exact List.cons_subset_cons arg (ih hmore)

lemma mem_of_flagsOr {allowed : String} {arguments : Arguments}
    (h : flagsOr call allowed = .ok arguments) : arguments.operands ⊆ call.args := by
  simp only [flagsOr] at h
  split at h
  · rename_i found hfound
    exact Except.ok.inj h ▸ mem_of_splitFlags hfound
  · simp at h

lemma makeChain_unspaced {now : Time.Instant} {paths : List String}
    (hpaths : ∀ path ∈ paths, Text.Unspaced path.toList) (h : store.Unspaced) :
    (makeChain now paths store).2.Unspaced := by
  induction paths generalizing store with
  | nil => exact h
  | cons path rest ih =>
      rw [List.forall_mem_cons] at hpaths
      simp only [makeChain]
      split
      · split
        · exact ih hpaths.2 h
        · exact h
      · cases hcreate : store.create (.directory path) now with
        | error failure => exact h
        | ok made => exact ih hpaths.2 (h.create (Store.unspaced_directory hpaths.1) hcreate)

lemma mkdirOperand_unspaced {parents : Bool} {operand : String} (hcall : call.Unspaced)
    (hoperand : Text.Unspaced operand.toList) (h : store.Unspaced) :
    (mkdirOperand call parents store operand).2.Unspaced := by
  have hpath := hcall.resolve hoperand
  suffices hmade : ((if parents then makeWithParents else makeDirectory) store
      (call.resolve operand) call.now).2.Unspaced by
    simp only [mkdirOperand]
    cases hmake : (if parents then makeWithParents else makeDirectory) store
        (call.resolve operand) call.now with
    | mk outcome made =>
        rw [hmake] at hmade
        cases outcome <;> exact hmade
  split
  · refine makeChain_unspaced (fun path hin => ?_) h
    rw [pathChain, List.mem_reverse] at hin
    exact Path.unspaced_of_mem_selfAndAncestors hpath path (List.mem_of_mem_filter hin)
  · simp only [makeDirectory]
    cases hcreate : store.create (.directory (call.resolve operand)) call.now with
    | error failure => exact h
    | ok made => exact h.create (Store.unspaced_directory hpath) hcreate

theorem keepsUnspaced_mkdir : KeepsUnspaced mkdir := by
  intro call store draws hcall _ h
  simp only [mkdir, run]
  split
  · exact h
  · exact h
  · rename_i flags operands _ hflags
    refine forEachOperand_preserves (fun store operand hoperand h => ?_) h
    exact mkdirOperand_unspaced hcall (hcall.args operand (mem_of_flagsOr hflags hoperand)) h

theorem keepsUnspaced_touch : KeepsUnspaced touch := by
  intro call store draws hcall _ h
  simp only [touch, run]
  split
  · exact h
  · refine forEachOperand_preserves (fun store operand hoperand h => ?_) h
    have hpath := hcall.resolve (hcall.args operand (List.mem_of_mem_filter hoperand))
    simp only [touchOperand]
    split
    · rename_i hdone
      split at hdone
      · exact h.update hdone
      · exact h.create (Store.unspaced_file "" hpath) hdone
    · exact h

/-- The file of a destination, if it is one. -/
def Destination.file? : Destination → Option String
  | screen => none
  | overwrite file | append file => some file

/-- A redirection goes to the file that it is given, and what is attached to it is part of its
word. -/
lemma redirection?_eq_some {word attached : String} {into : String → Destination}
    (h : redirection? word = some (into, attached)) :
    (∀ file, (into file).file? = some file) ∧ attached.toList ⊆ word.toList := by
  simp only [redirection?] at h
  split at h
  · rename_i rest heq
    simp only [Option.some.injEq, Prod.mk.injEq] at h
    obtain ⟨rfl, rfl⟩ := h
    rw [heq, String.toList_ofList]
    exact ⟨fun _ => rfl, fun c hc => by simp [hc]⟩
  · rename_i rest _ heq
    simp only [Option.some.injEq, Prod.mk.injEq] at h
    obtain ⟨rfl, rfl⟩ := h
    rw [heq, String.toList_ofList]
    exact ⟨fun _ => rfl, fun c hc => by simp [hc]⟩
  · simp at h

lemma unspaced_unquoted {file : String} (h : Text.Unspaced file.toList) :
    Text.Unspaced (unquoted file).toList := by
  rw [unquoted, Text.trimMatches, String.toList_ofList]
  exact h.of_subset (Text.trimBoth_subset _ _)

lemma unspaced_of_splitRedirection {args words : List String} {destination : Destination}
    {file : String} (hargs : ∀ arg ∈ args, Text.Unspaced arg.toList)
    (h : splitRedirection args = .ok (words, destination)) (hfile : destination.file? = some file) :
    Text.Unspaced file.toList := by
  induction args generalizing words with
  | nil =>
      simp only [splitRedirection, Except.ok.injEq, Prod.mk.injEq] at h
      obtain ⟨-, rfl⟩ := h
      simp [Destination.file?] at hfile
  | cons word rest ih =>
      rw [List.forall_mem_cons] at hargs
      simp only [splitRedirection] at h
      split at h
      · obtain ⟨⟨more, found⟩, hmore, hdone⟩ := bind_eq_ok_iff.mp h
        simp only [pure, Except.pure, Except.ok.injEq, Prod.mk.injEq] at hdone
        obtain ⟨-, rfl⟩ := hdone
        exact ih hargs.2 hmore
      · rename_i into attached hredirection
        obtain ⟨hinto, hattached⟩ := redirection?_eq_some hredirection
        have htarget : ∀ target, into (unquoted target) = destination →
            Text.Unspaced target.toList → Text.Unspaced file.toList := by
          rintro target rfl hunspaced
          rw [hinto, Option.some_inj] at hfile
          exact hfile ▸ unspaced_unquoted hunspaced
        split at h
        · simp only [Except.ok.injEq, Prod.mk.injEq] at h
          exact htarget attached h.2 (hargs.1.of_subset hattached)
        · split at h
          · rename_i next _
            simp only [Except.ok.injEq, Prod.mk.injEq] at h
            exact htarget next h.2 (hargs.2 next List.mem_cons_self)
          · simp at h

lemma echoOptions_subset (args : List String) : (echoOptions args).2 ⊆ args := by
  fun_induction echoOptions args with
  | case1 rest ih => exact List.subset_cons_of_subset _ ih
  | case2 rest ih => exact List.subset_cons_of_subset _ ih
  | case3 rest ih => exact List.subset_cons_of_subset _ ih
  | case4 => exact List.Subset.refl _

theorem keepsUnspaced_echo : KeepsUnspaced echo := by
  intro call store draws hcall _ h
  have hargs : ∀ arg ∈ (echoOptions call.args).2, Text.Unspaced arg.toList :=
    fun arg harg => hcall.args arg (echoOptions_subset _ harg)
  have hinto : ∀ file text, Text.Unspaced file.toList →
      (echoInto call store file text).2.Unspaced := by
    intro file text hfile
    simp only [echoInto]
    cases hupsert : store.upsert (.file (call.resolve file) text) call.now with
    | error failure => exact h
    | ok made => exact h.upsert (Store.unspaced_file text (hcall.resolve hfile)) hupsert
  simp only [echo, run]
  split
  · exact h
  · rename_i words destination hsplit
    cases destination with
    | screen => exact h
    | overwrite file => exact hinto _ _ (unspaced_of_splitRedirection hargs hsplit rfl)
    | append file => exact hinto _ _ (unspaced_of_splitRedirection hargs hsplit rfl)

theorem keepsUnspaced_rm : KeepsUnspaced rm := by
  intro call store draws hcall _ h
  simp only [rm, run]
  split
  · exact h
  · exact h
  · refine forEachOperand_preserves (fun store operand _ h => ?_) h
    simp only [rmOperand]
    split
    · exact h
    · cases hdelete : store.delete (call.resolve operand) with
      | none => exact h
      | some after => exact h.delete hdelete

lemma copyNodes_unspaced (now : Time.Instant) (source : String) {target : String}
    {nodes : List Node} (hnodes : ∀ node ∈ nodes, Text.Unspaced node.path.toList)
    (htarget : Text.Unspaced target.toList) (h : store.Unspaced) :
    (copyNodes now source target nodes store).2.Unspaced := by
  induction nodes generalizing store with
  | nil => exact h
  | cons node rest ih =>
      rw [List.forall_mem_cons] at hnodes
      have hcopied :
          (copyNode now node (Path.rebase node.path source target) store).2.Unspaced := by
        obtain ⟨draft, hpath, -, -, hcopy⟩ :=
          copyNode_eq now node (Path.rebase node.path source target) store
        have hdraft : Text.Unspaced draft.path.toList := by
          rw [hpath]
          exact Path.unspaced_normalize (Path.unspaced_rebase source hnodes.1 htarget)
        rw [hcopy]
        cases hupsert : store.upsert draft now with
        | error failure => exact h
        | ok made =>
            have hmade := h.upsert hdraft hupsert
            cases hupdate : made.2.update (Path.rebase node.path source target)
                ⟨none, some node.permissions⟩ now with
            | error failure => simpa [hupdate] using hmade
            | ok marked => simpa [hupdate] using hmade.update hupdate
      simp only [copyNodes]
      cases hcopy : copyNode now node (Path.rebase node.path source target) store with
      | mk outcome copied =>
          rw [hcopy] at hcopied
          cases outcome with
          | error failure => exact hcopied
          | ok => exact ih hnodes.2 hcopied

/-- Both operands of a transfer are arguments, and a node is named after its path. -/
lemma unspaced_target {name allowed : String} {transfer : Transfer} (hcall : call.Unspaced)
    (hsafe : Safe store) (h : store.Unspaced)
    (hread : (flagsOr call allowed >>= fun arguments =>
      transferOf call store name arguments.operands) = .ok transfer) :
    transfer.source ∈ store.nodes ∧ Text.Unspaced transfer.target.toList := by
  obtain ⟨arguments, hflags, htransfer⟩ := bind_eq_ok_iff.mp hread
  obtain ⟨here, there, hoperands, hsource, htarget⟩ := transferOf_eq_ok htransfer
  have hmem := Store.mem_of_get? hsource
  have harg : there ∈ call.args := mem_of_flagsOr hflags (by simp [hoperands])
  have hplace := hcall.resolve (hcall.args there harg)
  refine ⟨hmem, ?_⟩
  rw [htarget, transferTarget]
  split
  · refine Path.unspaced_join hplace ?_
    rw [(hsafe.tree.accurate _ hmem).name]
    exact Path.unspaced_fileName (h _ hmem)
  · exact hplace

theorem keepsUnspaced_cp : KeepsUnspaced cp := by
  intro call store draws hcall hsafe h
  simp only [cp, run]
  split
  · exact h
  · rename_i transfer hread
    obtain ⟨hsource, htarget⟩ := unspaced_target hcall hsafe h hread
    simp only [copyTransfer]
    split
    · exact h
    · have hcopied : (copyTree call.now transfer.source transfer.target store).2.Unspaced := by
        rw [copyTree_eq call.now transfer.target hsafe.tree hsource]
        refine copyNodes_unspaced _ _ (fun node hnode => h node ?_) htarget h
        exact ((hsafe.tree.mem_cons_descendants hsource).mp hnode).1
      cases hcopy : copyTree call.now transfer.source transfer.target store with
      | mk outcome copied =>
          rw [hcopy] at hcopied
          cases outcome <;> exact hcopied

theorem keepsUnspaced_mv : KeepsUnspaced mv := by
  intro call store draws hcall hsafe h
  simp only [mv, run]
  split
  · exact h
  · rename_i transfer hread
    obtain ⟨-, htarget⟩ := unspaced_target hcall hsafe h hread
    simp only [moveTransfer]
    cases hrename : store.rename transfer.source.path transfer.target call.now with
    | error failure => cases failure <;> exact h
    | ok after => exact h.rename htarget hrename

/-- A change of permissions makes nothing new. -/
theorem keepsUnspaced_chmod : KeepsUnspaced chmod := by
  intro call store draws _ _ h
  cases hargs : call.args with
  | nil => simpa [chmod, run, hargs] using h
  | cons mode operands =>
      rcases chmod_changed store "chmod" draws hargs with
        ⟨-, -, hsame⟩ | ⟨-, hchanged, -⟩
      · rwa [hsame]
      · refine h.of_free fun path _ hnone => ?_
        by_cases hpath : path ∈ operands.map call.resolve
        · exact hchanged.missing path hpath hnone
        · rw [hchanged.elsewhere path hpath, hnone]

/-! ## Performing scripts -/

lemma carryOutAll_unspaced (now : Time.Instant) {effects : List Effect} {stage : Stage}
    (heffects : ∀ effect ∈ effects, Text.Unspaced effect.path.toList)
    (h : stage.store.Unspaced) : (Stage.carryOutAll now effects stage).2.store.Unspaced := by
  induction effects generalizing stage with
  | nil => exact h
  | cons effect rest ih =>
      rw [List.forall_mem_cons] at heffects
      have hcarried : (stage.carryOut now effect).2.store.Unspaced := by
        cases effect with
        | makeDirectory path =>
            simp only [Stage.carryOut, Stage.makeDirectory]
            cases hupsert : stage.store.upsert (.directory path) now with
            | error failure => exact h
            | ok made => exact h.upsert (Store.unspaced_directory heffects.1) hupsert
        | write path content permissions =>
            simp only [Stage.carryOut, Stage.write]
            cases hupsert : stage.store.upsert (.file path content) now with
            | error failure => exact h
            | ok made =>
                have hmade := h.upsert (Store.unspaced_file content heffects.1) hupsert
                cases permissions with
                | none => exact hmade
                | some shown =>
                    cases hupdate : made.2.update path ⟨none, some shown⟩ now with
                    | error failure => simpa [hupdate] using hmade
                    | ok marked => simpa [hupdate] using hmade.update hupdate
      simp only [Stage.carryOutAll]
      cases hcarry : stage.carryOut now effect with
      | mk outcome middle =>
          rw [hcarry] at hcarried
          cases outcome with
          | error failure => exact hcarried
          | ok => exact ih heffects.2 hcarried

/-- Whether a script is performed or taken back, only its effects can bring in a path. -/
lemma perform_unspaced (now : Time.Instant) {script : ToolScript}
    (heffects : ∀ effect ∈ script.effects, Text.Unspaced effect.path.toList)
    (h : store.Unspaced) : (script.perform store now).2.1.Unspaced := by
  have hcarried : (Stage.carryOutAll now script.effects ⟨store, []⟩).2.store.Unspaced :=
    carryOutAll_unspaced now heffects h
  simp only [ToolScript.perform]
  cases hcarry : Stage.carryOutAll now script.effects ⟨store, []⟩ with
  | mk outcome last =>
      rw [hcarry] at hcarried
      cases outcome with
      | ok => exact hcarried
      | error failure => exact hcarried.of_free fun _ _ hnone => Undo.get?_applyAll_of_none hnone

lemma keepsUnspaced_tool {plan : Invocation → Store → Plan × List Log.Event}
    (hplan : ∀ call store script, Invocation.Unspaced call →
      script? (tool plan) call store = some script →
      ∀ effect ∈ script.effects, Text.Unspaced effect.path.toList) :
    KeepsUnspaced (.tool plan) := by
  intro call store draws hcall _ h
  rw [run_tool_store]
  cases hscript : script? (tool plan) call store with
  | none => exact h
  | some script => exact perform_unspaced call.now (hplan call store script hcall hscript) h

/-! ## Tools that write one file -/

lemma mem_of_readBuild {output : Option String} {inputs args : List String} {file : String}
    {found : List String} (h : readBuild output inputs args = .build (some file) found) :
    file ∈ args ∨ output = some file := by
  fun_induction readBuild output inputs args <;> grind

theorem keepsUnspaced_gcc : KeepsUnspaced gcc := by
  refine keepsUnspaced_tool fun call store script hcall h => ?_
  simp only [script?] at h
  split at h
  · simp at h
  · simp at h
  · simp at h
  · rename_i output inputs _ hread
    simp only [buildProgram] at h
    split at h
    · simp at h
    · obtain rfl := Option.some.inj h
      rw [List.forall_mem_singleton]
      refine hcall.resolve ?_
      cases output with
      | none => decide
      | some file => exact hcall.args file ((mem_of_readBuild hread).resolve_right (by simp))

lemma mem_of_readCurl_file {download : Download} {args : List String} {file : String}
    (h : (readCurl download args).file = some file) : file ∈ args ∨ download.file = some file := by
  fun_induction readCurl download args <;> grind

lemma mem_of_readWget_file {download : Download} {args : List String} {file : String}
    (h : (readWget download args).file = some file) : file ∈ args ∨ download.file = some file := by
  fun_induction readWget download args <;> grind

theorem keepsUnspaced_curl : KeepsUnspaced curl := by
  refine keepsUnspaced_tool fun call store script hcall h => ?_
  simp only [script?] at h
  split at h
  · simp at h
  · split at h
    · simp at h
    · rw [curlPlan] at h
      dsimp only at h
      split_ifs at h
      · simp at h
      · split at h
        · rename_i file hfile
          obtain rfl := Option.some.inj h
          rw [List.forall_mem_singleton]
          exact hcall.resolve
            (hcall.args file ((mem_of_readCurl_file hfile).resolve_right (by simp)))
        · simp at h

/-- The address that an argument names has no blank in its path. -/
lemma unspaced_webAddress {naming : Url.Naming} {raw : String} {url : Url}
    (hraw : Text.Unspaced raw.toList) (h : webAddress naming raw = .ok url) :
    Text.Unspaced url.path.toList := by
  simp only [webAddress] at h
  split at h
  · simp at h
  · rename_i found hparse
    split at h
    · obtain rfl := Except.ok.inj h
      refine Url.unspaced_path_of_parse? hparse ?_
      split
      · exact hraw
      · rw [String.toList_append, Text.unspaced_append]
        exact ⟨by decide, hraw⟩
    · simp at h

lemma unspaced_lastSegment {path : String} (h : Text.Unspaced path.toList) :
    Text.Unspaced (path.toList.reverse.takeWhile (· ≠ '/')).reverse :=
  h.of_subset fun _ hc => List.mem_reverse.mp
    ((List.takeWhile_prefix _).subset (List.mem_reverse.mp hc))

theorem keepsUnspaced_wget : KeepsUnspaced wget := by
  refine keepsUnspaced_tool fun call store script hcall h => ?_
  simp only [script?] at h
  split at h
  · simp at h
  · rename_i raw hraw
    have hword := hcall.args raw ((mem_of_readWget hraw).resolve_right (by simp))
    split at h
    · simp at h
    · rename_i url hweb
      obtain rfl := Option.some.inj h
      rw [List.forall_mem_singleton]
      refine hcall.resolve ?_
      cases hfile : (readWget {} call.args).file with
      | some file =>
          exact hcall.args file ((mem_of_readWget_file hfile).resolve_right (by simp))
      | none =>
          rw [Option.getD_none, downloadName]
          split
          · decide
          · rw [Url.lastSegment, String.toList_ofList]
            exact unspaced_lastSegment (unspaced_webAddress hword hweb)

theorem keepsUnspaced_tar : KeepsUnspaced tar := by
  refine keepsUnspaced_tool fun call store script hcall h => ?_
  simp only [script?] at h
  split at h
  · rename_i mode archive operands hargs
    cases hc : (Text.trimStartMatches (fun c => c = '-') mode).toList.contains 'c' with
    | true =>
        simp only [hc, if_true, tarCreate] at h
        split at h
        · simp at h
        · split at h
          · simp at h
          · obtain rfl := Option.some.inj h
            rw [List.forall_mem_singleton]
            exact hcall.resolve (hcall.args archive (by simp [hargs]))
    | false =>
        simp only [hc, Bool.false_eq_true, if_false] at h
        split at h
        · simp [planned?_tarRead] at h
        · simp at h
  · simp at h

theorem keepsUnspaced_zip : KeepsUnspaced zip := by
  refine keepsUnspaced_tool fun call store script hcall h => ?_
  simp only [script?] at h
  split at h
  · simp at h
  · simp at h
  · rename_i archive files _ hargs
    have harchive := hcall.args archive
      (List.mem_of_mem_filter (hargs ▸ List.mem_cons_self))
    simp only [zipCreate] at h
    split at h
    · simp at h
    · obtain rfl := Option.some.inj h
      rw [List.forall_mem_singleton]
      refine hcall.resolve ?_
      rw [zipName]
      split
      · exact harchive
      · rw [String.toList_append, Text.unspaced_append]
        exact ⟨harchive, by decide⟩

/-! ## Tools that make several nodes -/

lemma unspaced_stripEnd? {ending text rest : String} (h : Text.Unspaced text.toList)
    (hstrip : Text.stripEnd? ending text = some rest) : Text.Unspaced rest.toList :=
  h.of_subset fun _ hc => (begins_of_stripEnd? hstrip).subset hc

theorem keepsUnspaced_javac : KeepsUnspaced javac := by
  refine keepsUnspaced_tool fun call store script hcall h => ?_
  simp only [script?] at h
  split at h
  · simp at h
  · split at h
    · rename_i effects hall
      obtain rfl := Option.some.inj h
      intro effect heffect
      obtain ⟨operand, hoperand, hfile⟩ := exists_of_mem_mapM hall effect heffect
      have hword := hcall.args operand (List.mem_of_mem_filter hoperand)
      simp only [classFile] at hfile
      split at hfile
      · simp at hfile
      · rename_i stem hstem
        split at hfile
        · simp at hfile
        · simp at hfile
        · obtain rfl := Except.ok.inj hfile
          refine hcall.resolve ?_
          rw [String.toList_append, Text.unspaced_append]
          exact ⟨unspaced_stripEnd? hword hstem, by decide⟩
    · rename_i plan hall
      obtain ⟨operand, -, hfault⟩ := exists_of_mapM_eq_error hall
      simp [classFile_eq_error hfault] at h

/-- A package is named by a piece of an argument. -/
lemma unspaced_packageName {package : String} (h : Text.Unspaced package.toList) :
    Text.Unspaced (packageName package).toList := by
  rw [packageName]
  cases hfind : (Text.splitString '@' package).find? (· ≠ "") with
  | none => exact h
  | some piece =>
      obtain ⟨chars, hchars, rfl⟩ := List.mem_map.mp (List.mem_of_find?_eq_some hfind)
      rw [Option.getD_some, String.toList_ofList]
      exact h.of_subset fun c hc => Text.mem_of_mem_pieces hchars hc

theorem keepsUnspaced_npm : KeepsUnspaced npm := by
  refine keepsUnspaced_tool fun call store script hcall h => ?_
  have hplan : ∀ plan, npmPlan call store = .ok plan ∨ npmPlan call store = .error plan →
      planned? plan = some script →
        ∀ effect ∈ script.effects, Text.Unspaced effect.path.toList := by
    intro plan hplan hscript
    rcases npmPlan_cases hplan with hnone | ⟨rest, hrest, rfl⟩ | rfl
    · simp [hnone] at hscript
    · obtain rfl := Option.some.inj hscript
      have hmodules : Text.Unspaced (call.resolve "node_modules").toList :=
        hcall.resolve (by decide)
      rw [List.forall_mem_cons]
      refine ⟨hmodules, List.forall_mem_map.mpr fun package hpackage => ?_⟩
      have hword := hcall.args package (hrest (List.mem_of_mem_filter hpackage))
      have hplace := Path.unspaced_join hmodules (unspaced_packageName hword)
      simpa only [Effect.path] using hplace
    · obtain rfl := Option.some.inj hscript
      rw [List.forall_mem_singleton]
      exact hcall.resolve (by decide)
  simp only [script?] at h
  split at h
  · rename_i plan heq
    exact hplan plan (Or.inl heq) h
  · rename_i plan heq
    exact hplan plan (Or.inr heq) h

/-- The name of a repository is cut out of its remote. -/
lemma unspaced_repositoryName? {naming : Url.Naming} {remote name : String}
    (h : Text.Unspaced remote.toList) (hname : repositoryName? naming remote = some name) :
    Text.Unspaced name.toList := by
  obtain ⟨-, path, hpath, hbegins⟩ := exists_of_repositoryName? hname
  have hunspaced : Text.Unspaced path.toList := by
    rw [remotePath?] at hpath
    cases hparse : Url.parse? naming remote with
    | some url =>
        obtain rfl : url.path = path := by simpa [hparse] using hpath
        exact Url.unspaced_path_of_parse? hparse h
    | none =>
        rw [hparse] at hpath
        obtain ⟨sides, hsides, rfl⟩ := Option.map_eq_some_iff.mp hpath
        rw [String.toList_ofList]
        exact h.of_subset (Text.cutAtLast?_subset hsides).2
  have htrimmed : Text.Unspaced (Text.trimEndMatches (· = '/') path).toList := by
    rw [Text.trimEndMatches, String.toList_ofList]
    exact hunspaced.of_subset fun _ hc => List.mem_reverse.mp
      ((List.dropWhile_suffix _).subset (List.mem_reverse.mp hc))
  exact (unspaced_lastSegment htrimmed).of_subset fun _ hc => hbegins.subset hc

lemma unspaced_cloneInto {remote name : String} (hcall : call.Unspaced)
    (hname : Text.Unspaced name.toList)
    (h : planned? (cloneInto call store remote name).1 = some script) :
    ∀ effect ∈ script.effects, Text.Unspaced effect.path.toList := by
  have htarget := hcall.resolve hname
  simp only [cloneInto] at h
  split at h
  · simp at h
  · obtain rfl := Option.some.inj h
    simp only [cloneScript, Effect.file, List.forall_mem_cons, Effect.path]
    exact ⟨htarget, Path.unspaced_join htarget (by decide), Path.unspaced_join htarget (by decide),
      Path.unspaced_join htarget (by decide), Path.unspaced_join htarget (by decide),
      List.forall_mem_nil _⟩

lemma unspaced_gitClone {args : List String} (hcall : call.Unspaced) (hargs : args ⊆ call.args)
    (h : planned? (gitClone call store args).1 = some script) :
    ∀ effect ∈ script.effects, Text.Unspaced effect.path.toList := by
  have hword : ∀ arg ∈ args.filter (fun arg => !Text.startsWith "-" arg),
      Text.Unspaced arg.toList :=
    fun arg harg => hcall.args arg (hargs (List.mem_of_mem_filter harg))
  simp only [gitClone] at h
  split at h
  · simp at h
  · rename_i remote hfilter
    split at h
    · rename_i name hrepository
      exact unspaced_cloneInto hcall
        (unspaced_repositoryName? (hword remote (by simp [hfilter])) hrepository) h
    · simp at h
  · rename_i remote name _ hfilter
    exact unspaced_cloneInto hcall (hword name (by simp [hfilter])) h

lemma unspaced_gitInit {args : List String} (hcall : call.Unspaced) (hargs : args ⊆ call.args)
    (h : planned? (gitInit call store args) = some script) :
    ∀ effect ∈ script.effects, Text.Unspaced effect.path.toList := by
  obtain ⟨dir, hdir, hinit⟩ : ∃ dir, Text.Unspaced dir.toList ∧ ∃ known made,
      gitInit call store args
        = if store.contains (Path.join dir ".git") then Plan.ok known
          else .perform ⟨made,
            [.makeDirectory dir, .makeDirectory (Path.join dir ".git"),
              .file (Path.join (Path.join dir ".git") "HEAD")
                ("ref: refs/heads/" ++ branchName)]⟩ := by
    simp only [gitInit]
    cases hfind : args.find? fun arg => !Text.startsWith "-" arg with
    | none => exact ⟨_, hcall.cwd, _, _, rfl⟩
    | some operand =>
        have hin : operand ∈ call.args := hargs (List.mem_of_find?_eq_some hfind)
        exact ⟨_, hcall.resolve (hcall.args operand hin), _, _, rfl⟩
  obtain ⟨known, made, hinit⟩ := hinit
  have hgit : Text.Unspaced (Path.join dir ".git").toList := Path.unspaced_join hdir (by decide)
  rw [hinit] at h
  split at h
  · simp at h
  · obtain rfl := Option.some.inj h
    simp only [Effect.file, List.forall_mem_cons, Effect.path]
    exact ⟨hdir, hgit, Path.unspaced_join hgit (by decide), List.forall_mem_nil _⟩

theorem keepsUnspaced_git : KeepsUnspaced git := by
  refine keepsUnspaced_tool fun call store script hcall h => ?_
  simp only [script?] at h
  split at h
  case h_4 hargs => exact unspaced_gitClone hcall (hargs ▸ List.subset_cons_self _ _) h
  case h_5 hargs => exact unspaced_gitInit hcall (hargs ▸ List.subset_cons_self _ _) h
  case h_8 => simp [planned?_gitCommit] at h
  all_goals simp [planned?, Plan.ok, Plan.failed, gitStatus, gitPush, gitLog] at h

theorem keepsUnspaced_ssh : KeepsUnspaced ssh := by
  refine keepsUnspaced_tool fun call store script _ h => ?_
  simp only [script?] at h
  split at h <;> simp at h

end Command

end VirtualShell
