import VirtualShell.Proofs.Command.Files
import VirtualShell.Proofs.Command.Tools
import VirtualShell.Proofs.Effect.Refusal
import VirtualShell.Shell.Builtins

/-!
# What commands tell the log

Only the simulated tools tell the log anything.  `curl`, `wget` and `ssh` name the address that they
would contact, which is one of their arguments behind the log policy (`Contacts`); `git clone` names
its remote in the same way, and the place that it clones into as it is (`Clones`).  A tool that
fails may add files that could not be restored (`Undo.Refused`).
-/

namespace VirtualShell

open VirtualShell.Path (IsNormal)

open Store (Safe)

/-- What `git clone` would clone and the place that it would make a repository at, as its arguments
say. -/
def Session.clone? (session : Session) (naming : Url.Naming) :
    List String → Option (String × String)
  | "clone" :: rest =>
    match rest.filter fun arg => !Text.startsWith "-" arg with
    | [] => none
    | [remote] =>
      (Command.repositoryName? naming remote).map fun name => (remote, session.resolve name)
    | remote :: name :: _ => some (remote, session.resolve name)
  | _ => none

namespace Command

variable {call : Invocation} {store : Store} {draws : Draws} {event : Log.Event}

/-- What a command says before it does anything. -/
def announced (command : Command) (call : Invocation) (store : Store) : List Log.Event :=
  match command with
  | tool plan => (plan call store).2
  | _ => []

/-- An address that would be contacted: an argument behind the policy. -/
def Contacts (call : Invocation) (event : Log.Event) : Prop :=
  ∃ raw ∈ call.args, event = .fetched (call.policy.redact raw)
    ∨ event = .downloaded (call.policy.redact raw)
    ∨ event = .connectionRefused (call.policy.redact raw)

/-- A clone into a place that is free. -/
def Clones (call : Invocation) (store : Store) (event : Log.Event) : Prop :=
  ∃ remote target, call.session.clone? call.naming call.args = some (remote, target)
    ∧ store.contains target = false ∧ event = .cloned (call.policy.redact remote) target

/-! ## Reading arguments -/

lemma mem_of_readCurl {download : Download} {args : List String} {raw : String}
    (h : (readCurl download args).url = some raw) : raw ∈ args ∨ download.url = some raw := by
  fun_induction readCurl download args <;> grind

lemma mem_of_readWget {download : Download} {args : List String} {raw : String}
    (h : (readWget download args).url = some raw) : raw ∈ args ∨ download.url = some raw := by
  fun_induction readWget download args <;> grind

lemma mem_of_readConnection {portOption : String} {connection read : Connection}
    {args : List String} {operand : String}
    (h : readConnection portOption connection args = some read)
    (hoperand : operand ∈ read.operands) :
    operand ∈ args ∨ operand ∈ connection.operands := by
  fun_induction readConnection portOption connection args <;> grind

/-! ## What the tools announce -/

lemma announced_curl :
    announced curl call store
      = (((readCurl {} call.args).url.filter fun raw => (webAddress call.naming raw).isOk).map
          fun raw => .fetched (call.policy.redact raw)).toList := by
  simp only [announced, curl]
  cases (readCurl {} call.args).url with
  | none => rfl
  | some raw =>
      cases hweb : webAddress call.naming raw <;>
        simp [hweb, Option.filter, Except.isOk, Except.toBool]

lemma announced_wget :
    announced wget call store
      = (((readWget {} call.args).url.filter fun raw => (webAddress call.naming raw).isOk).map
          fun raw => .downloaded (call.policy.redact raw)).toList := by
  simp only [announced, wget]
  cases (readWget {} call.args).url with
  | none => rfl
  | some raw =>
      cases hweb : webAddress call.naming raw <;>
        simp [hweb, Option.filter, Except.isOk, Except.toBool]

lemma announced_ssh :
    announced ssh call store
      = (((readConnection "-p" {} call.args).bind fun read => read.operands.head?).map
          fun raw => .connectionRefused (call.policy.redact raw)).toList := by
  simp only [announced, ssh]
  cases readConnection "-p" {} call.args with
  | none => rfl
  | some read =>
      obtain ⟨port, operands⟩ := read
      cases operands <;> rfl

lemma contacts_curl : ∀ event ∈ announced curl call store, Contacts call event := by
  intro event hevent
  simp only [announced_curl, Option.mem_toList, Option.map_eq_some_iff,
    Option.filter_eq_some_iff] at hevent
  obtain ⟨raw, ⟨hraw, -⟩, rfl⟩ := hevent
  exact ⟨raw, (mem_of_readCurl hraw).resolve_right (by simp), Or.inl rfl⟩

lemma contacts_wget : ∀ event ∈ announced wget call store, Contacts call event := by
  intro event hevent
  simp only [announced_wget, Option.mem_toList, Option.map_eq_some_iff,
    Option.filter_eq_some_iff] at hevent
  obtain ⟨raw, ⟨hraw, -⟩, rfl⟩ := hevent
  exact ⟨raw, (mem_of_readWget hraw).resolve_right (by simp), Or.inr (Or.inl rfl)⟩

lemma contacts_ssh : ∀ event ∈ announced ssh call store, Contacts call event := by
  intro event hevent
  simp only [announced_ssh, Option.mem_toList, Option.map_eq_some_iff,
    Option.bind_eq_some_iff] at hevent
  obtain ⟨raw, ⟨read, hread, hhead⟩, rfl⟩ := hevent
  have hoperand := mem_of_readConnection hread (List.mem_of_mem_head? hhead)
  exact ⟨raw, hoperand.resolve_right (by simp), Or.inr (Or.inr rfl)⟩

lemma clone?_mem {session : Session} {naming : Url.Naming} {args : List String}
    {remote target : String} (h : session.clone? naming args = some (remote, target)) :
    remote ∈ args := by
  unfold Session.clone? at h
  split at h
  · rename_i rest
    have hoperand : remote ∈ rest.filter fun arg => !Text.startsWith "-" arg := by
      split at h
      · simp at h
      · rename_i only heq
        obtain ⟨name, -, hpair⟩ := Option.map_eq_some_iff.mp h
        rw [heq, (Prod.mk.inj hpair).1]
        exact List.mem_cons_self
      · rename_i first name more heq
        rw [heq, (Prod.mk.inj (Option.some_inj.mp h)).1]
        exact List.mem_cons_self
    exact List.mem_cons_of_mem _ (List.mem_of_mem_filter hoperand)
  · simp at h

lemma mem_cloneInto {remote name : String} :
    event ∈ (cloneInto call store remote name).2
      ↔ store.contains (call.resolve name) = false
        ∧ event = .cloned (call.policy.redact remote) (call.resolve name) := by
  simp only [cloneInto]
  cases store.contains (call.resolve name) <;> simp

lemma mem_gitClone {rest : List String} :
    event ∈ (gitClone call store rest).2
      ↔ ∃ remote target, call.session.clone? call.naming ("clone" :: rest) = some (remote, target)
        ∧ store.contains target = false ∧ event = .cloned (call.policy.redact remote) target := by
  simp only [gitClone, Session.clone?]
  generalize (rest.filter fun arg => !Text.startsWith "-" arg) = operands
  cases operands with
  | nil => simp
  | cons remote more =>
      cases more with
      | nil =>
          cases hname : repositoryName? call.naming remote with
          | none => simp [hname]
          | some name => simp [hname, mem_cloneInto, Invocation.resolve]
      | cons name more => simp [mem_cloneInto, Invocation.resolve]

/-- `git` announces a clone and nothing else. -/
theorem mem_announced_git : event ∈ announced git call store ↔ Clones call store event := by
  have hgit : announced git call store
      = match call.args with
        | "clone" :: rest => (gitClone call store rest).2
        | _ => [] := by
    simp only [announced, git]
    split <;> first | rfl | simp_all
  rw [hgit, Clones]
  split
  · rename_i rest hargs
    rw [mem_gitClone, hargs]
  · rename_i hother
    have hnone : call.session.clone? call.naming call.args = none := by
      unfold Session.clone?
      split
      · rename_i rest hargs
        exact absurd hargs (hother rest)
      · rfl
    simp [hnone]

/-! ## What a command tells -/

/-- What a command tells the log is what it announces and what its script reports. -/
lemma mem_run_events_iff {command : Command} :
    event ∈ (command.run call store draws).events
      ↔ event ∈ announced command call store
        ∨ ∃ script, script? command call store = some script
          ∧ event ∈ (script.perform store call.now).2.2 := by
  cases command with
  | inspect answer => simp [run, announced, script?]
  | monitor answer => simp [run, announced, script?]
  | edit answer => simp [run, announced, script?]
  | navigate answer =>
      simp only [run, announced, script?]
      split <;> simp
  | tool plan =>
      cases hplan : plan call store with
      | mk planned events =>
          cases planned with
          | say verdict => simp [run, announced, script?, planned?, hplan]
          | perform script =>
              cases hperform : script.perform store call.now with
              | mk outcome rest =>
                  cases outcome <;> simp [run, announced, script?, planned?, hplan, hperform]

/-- What the script of a proper command reports is what could not be restored. -/
lemma mem_run_events {command : Command}
    (hproper : ∀ script, script? command call store = some script → script.Proper)
    (hsafe : Safe store) (h : event ∈ (command.run call store draws).events) :
    event ∈ announced command call store ∨ Undo.Refused store event := by
  refine (mem_run_events_iff.mp h).imp_right fun ⟨script, hscript, hevent⟩ => ?_
  have htidy : ∀ effect ∈ script.effects, effect.Tidy :=
    fun effect heffect => (hproper script hscript effect heffect).1
  exact ToolScript.perform_refused call.now htidy hsafe.tree event hevent

lemma announced_subset {command : Command} (h : event ∈ announced command call store) :
    event ∈ (command.run call store draws).events := mem_run_events_iff.mpr (Or.inl h)

/-! ## All commands -/

/-- Whether a command acts a tool. -/
def isTool : Command → Bool
  | tool _ => true
  | _ => false

/-- What is known of the log of a command that is registered under a name. -/
structure Reporting (name : String) (command : Command) : Prop where
  proper : ∀ call store script, IsNormal call.cwd → Safe store →
    script? command call store = some script → script.Proper
  announces : ∀ call store, ∀ event ∈ announced command call store,
    Contacts call event ∨ name = "git" ∧ Clones call store event

variable {name : String} {command : Command}

lemma Reporting.of_not_tool (h : command.isTool = false) : Reporting name command := by
  cases command with
  | tool plan => simp [isTool] at h
  | _ => exact ⟨fun _ _ _ _ _ hscript => by simp [script?] at hscript, by simp [announced]⟩

/-- A tool that announces nothing has its script to answer for. -/
lemma Reporting.of_silent (hsilent : ∀ call store, announced command call store = [])
    (hproper : ∀ call store script, script? command call store = some script → script.Proper) :
    Reporting name command :=
  ⟨fun call store script _ _ hscript => hproper call store script hscript,
    fun call store event hevent => by simp [hsilent] at hevent⟩

lemma Reporting.of_contacts
    (hcontacts : ∀ call store, ∀ event ∈ announced command call store, Contacts call event)
    (hproper : ∀ call store script, script? command call store = some script → script.Proper) :
    Reporting name command :=
  ⟨fun call store script _ _ hscript => hproper call store script hscript,
    fun call store event hevent => Or.inl (hcontacts call store event hevent)⟩

lemma reporting_git : Reporting "git" git :=
  ⟨fun _ _ _ hcwd hsafe hscript => (freshTree_git hcwd hsafe.tree hscript).proper,
    fun _ _ _ hevent => Or.inr ⟨rfl, mem_announced_git.mp hevent⟩⟩

lemma announced_npm : announced npm call store = [] := by
  simp only [announced, npm]
  split <;> rfl

lemma announced_tar : announced tar call store = [] := by
  simp only [announced, tar]
  split <;> rfl

lemma announced_zip : announced zip call store = [] := by
  simp only [announced, zip]
  split <;> rfl

lemma reporting_npm : Reporting name npm :=
  .of_silent (fun _ _ => announced_npm) fun _ _ _ hscript =>
    (directories_npm hscript).elim OneFile.proper proper_of_directories

lemma reporting_tar : Reporting name tar :=
  .of_silent (fun _ _ => announced_tar) fun _ _ _ hscript => (oneFile_tar hscript).proper

lemma reporting_zip : Reporting name zip :=
  .of_silent (fun _ _ => announced_zip) fun _ _ _ hscript => (oneFile_zip hscript).proper

lemma reporting_ssh : Reporting name ssh := by
  refine .of_contacts (fun call store => contacts_ssh) fun call store script hscript => ?_
  simp only [script?, ssh] at hscript
  split at hscript <;> simp [planned?, Plan.failed] at hscript

end Command

/-- The tools among the built-in commands. -/
lemma Registry.tools_builtin :
    Registry.builtin.filter (fun entry => entry.2.isTool)
      = [("git", Command.git), ("javac", Command.javac), ("gcc", Command.gcc),
         ("g++", Command.gcc), ("npm", Command.npm), ("curl", Command.curl),
         ("wget", Command.wget), ("ssh", Command.ssh), ("tar", Command.tar),
         ("zip", Command.zip)] := rfl

/-- **Every built-in command tells the log only addresses that it would contact and clones**, and
files that its script could not restore. -/
theorem Registry.reporting_builtin :
    ∀ entry ∈ Registry.builtin, entry.2.Reporting entry.1 := by
  open Command in
  have htools : ∀ entry ∈ Registry.builtin.filter fun entry => entry.2.isTool,
      entry.2.Reporting entry.1 := by
    rw [tools_builtin]
    simp only [List.forall_mem_cons]
    exact ⟨reporting_git,
      .of_silent (fun _ _ => rfl) fun _ _ _ hscript => proper_of_files (files_javac hscript),
      .of_silent (fun _ _ => rfl) fun _ _ _ hscript => (oneFile_gcc hscript).proper,
      .of_silent (fun _ _ => rfl) fun _ _ _ hscript => (oneFile_gcc hscript).proper,
      reporting_npm,
      .of_contacts (fun _ _ => contacts_curl) fun _ _ _ hscript => (oneFile_curl hscript).proper,
      .of_contacts (fun _ _ => contacts_wget) fun _ _ _ hscript => (oneFile_wget hscript).proper,
      reporting_ssh, reporting_tar, reporting_zip, List.forall_mem_nil _⟩
  intro entry hentry
  cases htool : entry.2.isTool with
  | true => exact htools entry (List.mem_filter.mpr ⟨hentry, htool⟩)
  | false => exact .of_not_tool htool

end VirtualShell
