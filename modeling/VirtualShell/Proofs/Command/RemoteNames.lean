import Mathlib.Data.List.TakeWhile
import VirtualShell.Proofs.Command.Tools
import VirtualShell.Proofs.Path.Resolve
import VirtualShell.Shell.Builtins

/-!
# Names that come from a remote

`wget` without `-O` and `git clone` without a directory leave it to the remote what that which is
fetched is called.  It is the last segment of a path: in the one case `index.html` if there is none,
in the other without its ending (`remoteName?`).

**The shape of a name.**  Such a name is never empty and has no slash in it.  It may still be one of
the texts that are no name: `.`, `..` and `~`.

**The place of a name.**  The two tools act at one place and below it, and only where there is no
directory (`Placed`).  Since `.` and `..` always lead to directories, this is what keeps them out
(`isSegment_of_not_directory`); nothing keeps out the tilde.
-/

namespace VirtualShell.Command

open Text

open VirtualShell.Path (IsNormal IsSegment)

open Store (WellFormed)

/-- The name that a remote gives to what a call fetches, if the call leaves it to the remote. -/
def remoteName? (naming : Url.Naming) : String → List String → Option String
  | "wget", args =>
    if "-O" ∈ args then none
    else
      (readWget {} args).url.bind fun raw => (webAddress naming raw).toOption.map downloadName
  | "git", "clone" :: rest =>
    match rest.filter fun arg => !startsWith "-" arg with
    | [remote] => repositoryName? naming remote
    | _ => none
  | _, _ => none

/-- A call that leaves it to the remote how that which is fetched is named: a download that is not
told a file, or a clone that is not told a directory. -/
inductive Unnamed : String → List String → Prop where
  | download {args : List String} (h : "-O" ∉ args) : Unnamed "wget" args
  | clone {rest : List String} {remote : String}
      (h : (rest.filter fun arg => !startsWith "-" arg) = [remote]) :
      Unnamed "git" ("clone" :: rest)

variable {naming : Url.Naming} {call : Invocation} {store : Store} {draws : Draws}
  {script : ToolScript} {name remote target : String} {rest : List String}

/-! ## The shape of a name -/

lemma slash_not_mem_last (text : List Char) : '/' ∉ (text.reverse.takeWhile (· ≠ '/')).reverse := by
  intro hslash
  simpa using List.mem_takeWhile_imp (List.mem_reverse.mp hslash)

lemma begins_of_stripEnd? {ending text rest : String} (h : stripEnd? ending text = some rest) :
    rest.toList <+: text.toList := by
  obtain ⟨before, hafter, rfl⟩ := Option.map_eq_some_iff.mp h
  rw [String.toList_ofList, ← List.reverse_suffix, List.reverse_reverse,
    after?_eq_some_iff.mp hafter]
  exact List.suffix_append _ before

/-- A repository is named by what begins behind the last slash of its path. -/
lemma exists_of_repositoryName? (h : repositoryName? naming remote = some name) :
    name ≠ "" ∧ ∃ path, remotePath? naming remote = some path ∧ name.toList
      <+: ((trimEndMatches (· = '/') path).toList.reverse.takeWhile (· ≠ '/')).reverse := by
  obtain ⟨path, hpath, hlast⟩ := Option.bind_eq_some_iff.mp h
  dsimp only at hlast
  split_ifs at hlast with hempty
  obtain rfl := Option.some.inj hlast
  refine ⟨hempty, path, hpath, ?_⟩
  cases hstrip : stripEnd? ".git" (String.ofList
      ((trimEndMatches (· = '/') path).toList.reverse.takeWhile (· ≠ '/')).reverse) with
  | none => simp
  | some stem => simpa using begins_of_stripEnd? hstrip

/-- **A name from a remote** is not empty and has no slash in it. -/
theorem shape_of_remoteName? {command : String} {args : List String}
    (h : remoteName? naming command args = some name) : name ≠ "" ∧ '/' ∉ name.toList := by
  simp only [remoteName?] at h
  split at h
  · split_ifs at h
    obtain ⟨raw, -, hweb⟩ := Option.bind_eq_some_iff.mp h
    obtain ⟨url, -, rfl⟩ := Option.map_eq_some_iff.mp hweb
    rw [downloadName]
    split_ifs with hindex
    · exact ⟨by decide, by decide⟩
    · refine ⟨hindex, ?_⟩
      rw [Url.lastSegment, String.toList_ofList]
      exact slash_not_mem_last _
  · split at h
    · obtain ⟨hempty, path, -, hbegins⟩ := exists_of_repositoryName? h
      exact ⟨hempty, fun hslash => slash_not_mem_last _ (hbegins.subset hslash)⟩
    · simp at h
  · simp at h

/-- What has no slash in it and does not lead to a directory can be the name of a node: the other
texts lead to the working directory and to the one above it. -/
lemma isSegment_of_not_directory {cwd : String} (hwell : WellFormed store)
    (hcwd : store.isDirectory cwd = true) (hempty : name ≠ "") (hslash : '/' ∉ name.toList)
    (hfree : store.isDirectory (Path.resolve cwd name) = false) : IsSegment name.toList := by
  have hnormal : IsNormal cwd := hwell.isNormal_of_isDirectory hcwd
  refine ⟨by simpa using hempty, ?_, ?_, hslash⟩
  · intro hdot
    obtain rfl : name = "." := String.toList_inj.mp hdot
    rw [Path.resolve_dot hnormal, hcwd] at hfree
    exact Bool.noConfusion hfree
  · intro hdots
    obtain rfl : name = ".." := String.toList_inj.mp hdots
    have hup : store.isDirectory ((Path.parent? cwd).getD "/") = true := by
      obtain ⟨node, hget, -⟩ := Store.isDirectory_iff.mp hcwd
      cases hparent : Path.parent? cwd with
      | none => exact hwell.root
      | some up =>
          refine hwell.parents node (Store.mem_of_get? hget) up ?_
          rw [Store.path_of_get? hget, hparent]
    rw [Path.resolve_dots hnormal, hup] at hfree
    exact Bool.noConfusion hfree

/-! ## The place of a name -/

/-- What has been made or written stands at one place, where no directory was, and below it. -/
structure Placed (before after : Store) (target : String) : Prop where
  there : after.contains target = true
  free : before.isDirectory target = false
  only : ∀ path, after.get? path ≠ before.get? path →
    path = target ∨ Path.isBelow path target = true

lemma placed_of_carried {now : Time.Instant} {effects : List Effect} {stage : Stage}
    (h : Carried now store effects stage) (hreached : ∃ effect ∈ effects, effect.place = target)
    (hinside : ∀ effect ∈ effects,
      effect.place = target ∨ Path.isBelow effect.place target = true)
    (hfree : store.isDirectory target = false) : Placed store stage.store target := by
  refine ⟨?_, hfree, fun path hchanged => ?_⟩
  · obtain ⟨effect, heffect, hplace⟩ := hreached
    rw [← Bool.not_eq_false, Store.contains_eq_false_iff, h.get?_eq_none_iff]
    exact fun hnone => hnone.2 effect heffect hplace
  · by_contra houtside
    refine hchanged (h.get?_of_ne fun effect heffect hplace => houtside ?_)
    exact hplace ▸ hinside effect heffect

/-- A tool that succeeds with a script has carried out all of it. -/
lemma exists_carried_of_success {command : Command}
    (hscript : script? command call store = some script)
    (htidy : ∀ effect ∈ script.effects, effect.Tidy)
    (hsuccess : ((command.run call store draws).verdict.toReply name).success = true) :
    ∃ last, Carried call.now store script.effects last
      ∧ (command.run call store draws).store = last.store := by
  cases command with
  | tool plan =>
      obtain ⟨reply, hperform, -⟩ := exists_reply_of_success hscript hsuccess
      obtain ⟨last, hcarried, hstore⟩ := ToolScript.perform_eq_carried htidy hperform
      refine ⟨last, hcarried, ?_⟩
      rw [run_tool_store, hscript, Option.map_some, Option.getD_some, hstore]
  | _ => simp [script?] at hscript

/-! ## Downloads -/

/-- Without `-O` no file is named. -/
lemma readWget_file_of_not_mem {download : Download} {args : List String} (h : "-O" ∉ args) :
    (readWget download args).file = download.file := by
  fun_induction readWget download args <;> grind

/-- A download that succeeds has an address of the web and writes its page. -/
lemma script?_wget_of_success
    (hsuccess : ((wget.run call store draws).verdict.toReply "wget").success = true) :
    ∃ raw url script, (readWget {} call.args).url = some raw
      ∧ webAddress call.naming raw = .ok url
      ∧ script? wget call store = some script
      ∧ script.effects
        = [.file (call.resolve ((readWget {} call.args).file.getD (downloadName url)))
            (page url)] := by
  cases hraw : (readWget {} call.args).url with
  | none =>
      simp only [run, wget, hraw] at hsuccess
      exact Bool.noConfusion hsuccess
  | some raw =>
      cases hweb : webAddress call.naming raw with
      | error complaint =>
          simp only [run, wget, hraw, hweb, Plan.failed] at hsuccess
          exact Bool.noConfusion hsuccess
      | ok url => exact ⟨raw, url, _, rfl, hweb, by simp only [script?, wget, hraw, hweb]; rfl, rfl⟩

/-- A download that is not told a file writes the one that the remote names. -/
theorem wget_places (hbare : "-O" ∉ call.args)
    (hsuccess : ((wget.run call store draws).verdict.toReply "wget").success = true) :
    ∃ name, remoteName? call.naming "wget" call.args = some name
      ∧ Placed store (wget.run call store draws).store (call.resolve name) := by
  obtain ⟨raw, url, script, hraw, hweb, hscript, heffects⟩ := script?_wget_of_success hsuccess
  refine ⟨downloadName url, by simp [remoteName?, hbare, hraw, hweb, Except.toOption], ?_⟩
  rw [readWget_file_of_not_mem hbare, Option.getD_none] at heffects
  have hnormal : IsNormal (call.resolve (downloadName url)) := Path.isNormal_resolve _ _
  have htidy : ∀ effect ∈ script.effects, effect.Tidy := by
    rw [heffects, List.forall_mem_singleton]
    exact hnormal
  obtain ⟨last, hcarried, hstore⟩ := exists_carried_of_success hscript htidy hsuccess
  rw [heffects] at hcarried
  rw [hstore]
  refine placed_of_carried hcarried ⟨_, List.mem_singleton_self _, hnormal⟩ ?_ ?_
  · rw [List.forall_mem_singleton]
    exact Or.inl hnormal
  · rw [Bool.eq_false_iff, Ne, Store.isDirectory_iff]
    rintro ⟨old, hold, hdir⟩
    obtain ⟨text, htext⟩ := hcarried.file_of_write (List.mem_singleton_self _) hold
    simp [htext] at hdir

/-! ## Clones -/

/-- A clone that succeeds makes its directory where nothing was. -/
lemma script?_git_of_cloneInto (hargs : call.args = "clone" :: rest)
    (hclone : gitClone call store rest = cloneInto call store remote name)
    (hsuccess : ((git.run call store draws).verdict.toReply "git").success = true) :
    store.contains (call.resolve name) = false
      ∧ script? git call store
        = some (cloneScript name (call.resolve name) (Log.stripCredentials remote)) := by
  cases hthere : store.contains (call.resolve name) with
  | true =>
      simp only [run, git, hargs, hclone, cloneInto, hthere, if_true, Plan.failed] at hsuccess
      exact Bool.noConfusion hsuccess
  | false =>
      refine ⟨rfl, ?_⟩
      simp only [script?, git, hargs, hclone, cloneInto, hthere]
      rfl

/-- A clone that is not told a directory and succeeds makes the one that the remote names, where
nothing was. -/
lemma script?_git_of_success (hargs : call.args = "clone" :: rest)
    (hremote : (rest.filter fun arg => !startsWith "-" arg) = [remote])
    (hsuccess : ((git.run call store draws).verdict.toReply "git").success = true) :
    ∃ name, repositoryName? call.naming remote = some name
      ∧ store.contains (call.resolve name) = false
      ∧ script? git call store
        = some (cloneScript name (call.resolve name) (Log.stripCredentials remote)) := by
  cases hname : repositoryName? call.naming remote with
  | none =>
      simp only [run, git, hargs, gitClone, hremote, hname, Plan.failed] at hsuccess
      exact Bool.noConfusion hsuccess
  | some name =>
      have hclone : gitClone call store rest = cloneInto call store remote name := by
        simp only [gitClone, hremote, hname]
      exact ⟨name, rfl, script?_git_of_cloneInto hargs hclone hsuccess⟩

/-- A clone that is not told a directory makes the one that the remote names. -/
theorem git_places (hargs : call.args = "clone" :: rest)
    (hremote : (rest.filter fun arg => !startsWith "-" arg) = [remote])
    (hwell : WellFormed store) (hcwd : IsNormal call.cwd)
    (hsuccess : ((git.run call store draws).verdict.toReply "git").success = true) :
    ∃ name, remoteName? call.naming "git" call.args = some name
      ∧ Placed store (git.run call store draws).store (call.resolve name) := by
  obtain ⟨name, hname, hfree, hscript⟩ := script?_git_of_success hargs hremote hsuccess
  refine ⟨name, by simpa [remoteName?, hargs, hremote] using hname, ?_⟩
  have hproper := (freshTree_git hcwd hwell hscript).proper
  obtain ⟨last, hcarried, hstore⟩ :=
    exists_carried_of_success hscript (fun effect heffect => (hproper effect heffect).1) hsuccess
  have hnormal : IsNormal (call.resolve name) := Path.isNormal_resolve _ _
  have hinside : ∀ inner : String, IsSegment inner.toList →
      Path.normalize (Path.join (call.resolve name) inner) = call.resolve name
        ∨ Path.isBelow (Path.normalize (Path.join (call.resolve name) inner))
            (call.resolve name) = true := by
    intro inner hinner
    rw [Path.isNormal_join hnormal hinner]
    exact Or.inr (Path.isBelow_join hnormal hinner)
  rw [hstore]
  refine placed_of_carried hcarried ⟨_, List.mem_cons_self, hnormal⟩ ?_ ?_
  · simp only [cloneScript, List.forall_mem_cons, Effect.place, Effect.path]
    exact ⟨Or.inl hnormal, hinside ".git" (by decide), hinside "README.md" (by decide),
      hinside ".gitignore" (by decide), hinside "package.json" (by decide),
      List.forall_mem_nil _⟩
  · rw [Bool.eq_false_iff, Ne, Store.isDirectory_iff]
    rintro ⟨old, hold, -⟩
    simp [Store.contains_eq_false_iff.mp hfree] at hold

/-! ## Both tools -/

/-- Either tool, if it succeeds, acts at the place of the name that the remote gives. -/
theorem find?_of_unnamed {name : String} {args : List String} (h : Unnamed name args) :
    ∃ command, Registry.builtin.find? name = some command ∧ command.Gentle ∧ name ≠ "cd"
      ∧ ∀ call store draws, call.args = args → WellFormed store → IsNormal call.cwd →
        ((command.run call store draws).verdict.toReply name).success = true →
          ∃ given, remoteName? call.naming name args = some given
            ∧ Placed store (command.run call store draws).store (call.resolve given) := by
  cases h with
  | download hbare =>
      refine ⟨wget, rfl, gentle_wget, by decide, ?_⟩
      rintro call store draws rfl - - hsuccess
      exact wget_places hbare hsuccess
  | clone hremote =>
      refine ⟨git, rfl, gentle_git, by decide, ?_⟩
      intro call store draws hargs hwell hcwd hsuccess
      exact hargs ▸ git_places hargs hremote hwell hcwd hsuccess

end VirtualShell.Command
