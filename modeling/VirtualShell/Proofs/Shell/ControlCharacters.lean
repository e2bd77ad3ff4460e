import VirtualShell.Proofs.Shell.FailedTools
import VirtualShell.Proofs.Shell.Secrets

/-!
# Control characters in the log

Words are cut at blanks, and most control characters are none.  So an escape sequence can be part of
a name that is typed, of an argument, and with that of a path and a working directory.  What the log
shows of it is sanitized in some fields: in the line that is dispatched, and in the errors of failed
commands and panics.  Other fields are given their text as it is, or cut short, or with a marker for
its credentials.  `Bare` lists these texts.

`Shell.control_logged_iff` says that the list is right: a line puts a control character into the log
exactly if one of its bare texts holds one.  Each of them is followed from both sides.

* What a tool announces, by the name of the tool (`Registry.announced_hasControl_iff`).
* What could not be restored behind a tool that failed (`ToolScript.reported_hasControl_iff`).
* The working directory, which is logged by the line that is dispatched or, if it is gone, by the
  session that leaves it.
* The name of a command that is not found.  The names of the others hold no control character.
-/

namespace VirtualShell

open Time (Instant)

open VirtualShell.Path (IsNormal)

open Store (Safe)

/-! ## Texts and events -/

/-- Whether a text holds a control character. -/
def Text.HasControl (text : String) : Prop := ∃ c ∈ text.toList, isControl c = true

instance (text : String) : Decidable (Text.HasControl text) :=
  decidable_of_iff (text.toList.any Text.isControl = true) List.any_eq_true

/-- Whether a field of an event holds a control character. -/
def Log.Event.HasControl (event : Event) : Prop := ∃ field ∈ event.fields, Text.HasControl field.2

instance (event : Log.Event) : Decidable event.HasControl :=
  inferInstanceAs (Decidable (∃ field ∈ event.fields, Text.HasControl field.2))

open Text (HasControl)

variable {text cwd dir path name : String} {args : List String} {policy : Log.Policy}
  {store : Store} {event : Log.Event}

namespace Log

lemma hasControl_of_fields {first second key other : String}
    (h : event.fields = [(key, first), (other, second)]) (hcontrol : event.HasControl) :
    HasControl first ∨ HasControl second := by
  simpa [Event.HasControl, h] using hcontrol

lemma isControl_of_mem_phrases {c : Char} (h : c ∈ phrases) : Text.isControl c = false := by
  have hall : phrases.all (fun c => !Text.isControl c) = true := by decide +kernel
  simpa using List.all_eq_true.mp hall c h

lemma isControl_of_mem_marks {c : Char} (h : c ∈ marks) : Text.isControl c = false :=
  isControl_of_mem_phrases (mem_phrases_of_mem_marks h)

lemma not_hasControl_sanitize (text : String) : ¬ HasControl (sanitize text) := by
  rintro ⟨c, hc, hcontrol⟩
  rcases mem_sanitize hc with ⟨-, hfree⟩ | hmark
  · simp [hfree] at hcontrol
  · simp [isControl_of_mem_marks hmark] at hcontrol

lemma not_hasControl_describe (policy : Policy) (name : String) (args : List String) :
    ¬ HasControl (policy.describe name args) := by
  rintro ⟨c, hc, hcontrol⟩
  rcases mem_describe hc with ⟨-, hfree⟩ | hmark
  · simp [hfree] at hcontrol
  · simp [isControl_of_mem_marks hmark] at hcontrol

lemma not_hasControl_breach (breach : Breach) : ¬ HasControl breach.message := by
  rintro ⟨c, hc, hcontrol⟩
  simp [isControl_of_mem_phrases (mem_phrases_of_mem_breach hc)] at hcontrol

lemma hasControl_of_truncate (h : HasControl (policy.truncate text)) : HasControl text := by
  obtain ⟨c, hc, hcontrol⟩ := h
  rcases mem_truncate hc with htext | hmark
  · exact ⟨c, htext, hcontrol⟩
  · simp [isControl_of_mem_marks hmark] at hcontrol

end Log

/-- A directory above another is a part of it, or the root. -/
lemma Path.hasControl_of_isBelow (hbelow : isBelow cwd dir = true) (h : HasControl dir) :
    HasControl cwd := by
  obtain ⟨c, hc, hcontrol⟩ := h
  rcases mem_of_isBelow hbelow hc with hmem | rfl
  · exact ⟨c, hmem, hcontrol⟩
  · exact absurd hcontrol (by decide)

/-! ## What tools announce -/

/-- The address that a call would contact: the one that `curl` or `wget` is given, if it is one of
the web, and the destination of `ssh`. -/
def Invocation.contacted? (call : Invocation) : Option String :=
  match call.name with
  | "curl" =>
    (Command.readCurl {} call.args).url.filter fun raw => (Command.webAddress call.naming raw).isOk
  | "wget" =>
    (Command.readWget {} call.args).url.filter fun raw => (Command.webAddress call.naming raw).isOk
  | "ssh" => (Command.readConnection "-p" {} call.args).bind fun read => read.operands.head?
  | _ => none

lemma Invocation.contacted?_eq_none {call : Invocation}
    (hname : call.name ∉ ["git", "curl", "wget", "ssh"]) : call.contacted? = none := by
  unfold contacted?
  split <;> simp_all

namespace Command

/-- An event that only shows an address holds the control characters that are left in that. -/
lemma contacted_hasControl_iff {tell : String → Log.Event} {key : String} (found : Option String)
    (hfields : ∀ shown, (tell shown).fields = [(key, shown)]) :
    (∃ event ∈ (found.map fun raw => tell (policy.redact raw)).toList, event.HasControl)
      ↔ ∃ raw, found = some raw ∧ HasControl (policy.redact raw) := by
  cases found <;> simp [Log.Event.HasControl, hfields]

/-- No other command announces anything but a clone. -/
lemma announced_of_other {command : Command} (hfind : Registry.builtin.find? name = some command)
    (hname : name ∉ ["git", "curl", "wget", "ssh"]) (call : Invocation) (store : Store) :
    announced command call store = [] := by
  cases htool : command.isTool with
  | false =>
      cases command with
      | tool plan => simp [isTool] at htool
      | _ => rfl
  | true =>
      have htools : ∀ entry ∈ Registry.builtin.filter fun entry => entry.2.isTool,
          entry.1 ∉ ["git", "curl", "wget", "ssh"] → announced entry.2 call store = [] := by
        rw [Registry.tools_builtin]
        simp only [List.forall_mem_cons]
        exact ⟨fun h => absurd (by decide) h, fun _ => rfl, fun _ => rfl, fun _ => rfl,
          fun _ => announced_npm, fun h => absurd (by decide) h, fun h => absurd (by decide) h,
          fun h => absurd (by decide) h, fun _ => announced_tar, fun _ => announced_zip,
          List.forall_mem_nil _⟩
      exact htools (name, command)
        (List.mem_filter.mpr ⟨Registry.mem_of_find? hfind, htool⟩) hname

end Command

/-- **What a command announces with control characters in it**: the address that it would contact,
or the remote or the place of a clone. -/
theorem Registry.announced_hasControl_iff {call : Invocation} {command : Command}
    (hfind : Registry.builtin.find? call.name = some command) :
    (∃ event ∈ command.announced call store, event.HasControl)
      ↔ (∃ raw, call.contacted? = some raw ∧ HasControl (call.policy.redact raw))
        ∨ call.name = "git" ∧ ∃ remote target,
          call.session.clone? call.naming call.args = some (remote, target)
            ∧ store.contains target = false
            ∧ (HasControl (call.policy.redact remote) ∨ HasControl target) := by
  by_cases hknown : call.name ∈ ["git", "curl", "wget", "ssh"]
  · simp only [List.mem_cons, List.not_mem_nil, or_false] at hknown
    rcases hknown with hname | hname | hname | hname <;> rw [hname] at hfind
    · obtain rfl : Command.git = command := Option.some_inj.mp hfind
      have hnone : call.contacted? = none := by simp [Invocation.contacted?, hname]
      simp only [Command.mem_announced_git, Command.Clones, hnone]
      constructor
      · rintro ⟨_, ⟨remote, target, hclone, hfree, rfl⟩, hcontrol⟩
        exact Or.inr ⟨hname, remote, target, hclone, hfree,
          Log.hasControl_of_fields rfl hcontrol⟩
      · rintro (⟨_, habsurd, -⟩ | ⟨-, remote, target, hclone, hfree, hcontrol⟩)
        · simp at habsurd
        · exact ⟨_, ⟨remote, target, hclone, hfree, rfl⟩,
            by simpa [Log.Event.HasControl, Log.Event.fields] using hcontrol⟩
    · obtain rfl : Command.curl = command := Option.some_inj.mp hfind
      rw [Command.announced_curl, Command.contacted_hasControl_iff _ fun _ => rfl]
      simp [Invocation.contacted?, hname]
    · obtain rfl : Command.wget = command := Option.some_inj.mp hfind
      rw [Command.announced_wget, Command.contacted_hasControl_iff _ fun _ => rfl]
      simp [Invocation.contacted?, hname]
    · obtain rfl : Command.ssh = command := Option.some_inj.mp hfind
      rw [Command.announced_ssh, Command.contacted_hasControl_iff _ fun _ => rfl]
      simp [Invocation.contacted?, hname]
  · have hnone := Invocation.contacted?_eq_none hknown
    have hgit : call.name ≠ "git" := by
      rintro hgit
      simp [hgit] at hknown
    simp [Command.announced_of_other hfind hknown, hnone, hgit]

/-! ## What tools report -/

/-- **What a performance reports with control characters in it**: the path of a file that it had
overwritten and could not give back. -/
theorem ToolScript.reported_hasControl_iff {script : ToolScript} (now : Instant)
    (hproper : script.Proper) (hsafe : Safe store) :
    (∃ event ∈ (script.perform store now).2.2, event.HasControl)
      ↔ (∃ failure, (script.perform store now).1 = .error failure)
        ∧ ∃ path content permissions,
          Effect.write path content permissions ∈ Effect.carriedOut now script.effects store
            ∧ ¬ Undo.FitsAt store path ∧ HasControl path := by
  have htidy : ∀ effect ∈ script.effects, effect.Tidy :=
    fun effect heffect => (hproper effect heffect).1
  have hreported := fun path => perform_reported_iff path now htidy hsafe.tree
  constructor
  · rintro ⟨event, hevent, hcontrol⟩
    obtain ⟨path, breach, rfl, -⟩ := perform_refused now htidy hsafe.tree event hevent
    obtain ⟨hfailed, ⟨content, permissions, hwrite⟩, hlarge⟩ := (hreported path).mp ⟨_, hevent⟩
    refine ⟨hfailed, path, content, permissions, hwrite, hlarge, ?_⟩
    exact (Log.hasControl_of_fields rfl hcontrol).resolve_right
      (Log.not_hasControl_breach breach)
  · rintro ⟨hfailed, path, content, permissions, hwrite, hlarge, hcontrol⟩
    obtain ⟨error, hevent⟩ := (hreported path).mpr ⟨hfailed, ⟨content, permissions, hwrite⟩, hlarge⟩
    exact ⟨_, hevent, _, List.mem_cons_self, hcontrol⟩

namespace Command

variable {call : Invocation} {command : Command} {draws : Draws}

/-- What a command tells the log with control characters in it, it announces, or its script
reports it. -/
lemma run_hasControl_iff (name : String)
    (hproper : ∀ script, script? command call store = some script → script.Proper)
    (hsafe : Safe store) :
    (∃ event ∈ (command.run call store draws).events, event.HasControl)
      ↔ (∃ event ∈ command.announced call store, event.HasControl)
        ∨ ((command.run call store draws).verdict.toReply name).success = false
          ∧ ∃ path content permissions,
            Effect.write path content permissions ∈ command.carriedOut call store
              ∧ ¬ Undo.FitsAt store path ∧ HasControl path := by
  simp only [mem_run_events_iff, or_and_right, exists_or]
  refine or_congr_right ?_
  cases hscript : script? command call store with
  | none => simp [carriedOut, hscript]
  | some script =>
      rw [run_failed_iff hscript]
      simpa [carriedOut, hscript] using
        ToolScript.reported_hasControl_iff call.now (hproper script hscript) hsafe

end Command

/-! ## What a line does not sanitize -/

/-- A text that a tool hands to the log with the control characters that it holds, where the tool is
called with `call` and the effects `undone` are taken back. -/
inductive Handed (call : Invocation) (store : Store) (undone : List Effect) : String → Prop where
  | contacted {raw : String} (h : call.contacted? = some raw) :
      Handed call store undone (call.policy.redact raw)
  | remote {remote target : String} (hname : call.name = "git")
      (hclone : call.session.clone? call.naming call.args = some (remote, target))
      (hfree : store.contains target = false) :
      Handed call store undone (call.policy.redact remote)
  | target {remote target : String} (hname : call.name = "git")
      (hclone : call.session.clone? call.naming call.args = some (remote, target))
      (hfree : store.contains target = false) : Handed call store undone target
  /-- The path of a file that was overwritten, and is too large to be written again. -/
  | overwritten {path content : String} {permissions : Option String}
      (hwrite : .write path content permissions ∈ undone) (hlarge : ¬ Undo.FitsAt store path) :
      Handed call store undone path

/-- A text that a line hands to the log with the control characters that it holds; `cwd` is where
its session stood before it settled. -/
inductive Bare (call : Invocation) (store : Store) (cwd : String) (undone : List Effect) :
    String → Prop where
  | cwd : Bare call store cwd undone cwd
  /-- The name of a command that fails. -/
  | name : Bare call store cwd undone (call.policy.truncate call.name)
  | handed {text : String} (h : Handed call store undone text) : Bare call store cwd undone text

/-- The names of the built-in commands hold no control characters. -/
lemma Registry.not_hasControl {command : Command}
    (hfind : Registry.builtin.find? name = some command) : ¬ HasControl name := by
  have hall : ∀ entry ∈ Registry.builtin, ¬ HasControl entry.1 := by decide
  exact hall _ (mem_of_find? hfind)

namespace Session

/-- A session that settles goes up at most. -/
lemma hasControl_of_settle {session : Session} (hsafe : Safe store) (hcwd : IsNormal session.cwd)
    (h : HasControl (session.settle store).1.cwd) : HasControl session.cwd := by
  rw [settle_eq] at h
  rcases (nearest_nearestDirectory hsafe.tree hcwd).above with hsame | hbelow
  · exact hsame ▸ h
  · exact Path.hasControl_of_isBelow hbelow h

/-- A session that does not stay where it stood tells where that was. -/
lemma stays_or_vanished (session : Session) (store : Store) :
    (session.settle store).1.cwd = session.cwd
      ∨ ∃ dir, .directoryVanished session.cwd dir ∈ (session.settle store).2 := by
  simp only [settle]
  split_ifs
  · exact Or.inl rfl
  · exact Or.inr ⟨_, List.mem_singleton_self _⟩

end Session

namespace Interpreter

variable {interpreter : Interpreter} {session : Session} {line : String} {now : Instant}
  {draws : Draws} {effect : Effect}

/-- The effects that are taken back behind a line: if it has failed, those that its tool had carried
out. -/
def undone (interpreter : Interpreter) (session : Session) (store : Store) (line : String)
    (now : Instant) (draws : Draws) : List Effect :=
  if (interpreter.execute session store line now draws).report.success then []
  else interpreter.carriedOut session store line now

lemma mem_undone_iff :
    effect ∈ interpreter.undone session store line now draws
      ↔ (interpreter.execute session store line now draws).report.success = false
        ∧ effect ∈ interpreter.carriedOut session store line now := by
  simp only [undone]
  split <;> simp_all

/-- **What a command tells with control characters in it** is what it hands over. -/
lemma dispatch_hasControl_iff (now : Instant) (draws : Draws)
    (hwords : Text.words (Text.trim line) = name :: args)
    (hcommands : interpreter.commands = Registry.builtin) (hcwd : IsNormal session.cwd)
    (hsafe : Safe store) :
    let started := ((session.record (Text.trim line)).settle store).1
    (∃ event ∈ (interpreter.dispatch name args started store now draws).events, event.HasControl)
      ↔ ∃ text, Handed (interpreter.invocation name args started now) store
          (interpreter.undone session store line now draws) text ∧ HasControl text := by
  intro started
  have hstart : IsNormal (interpreter.invocation name args started now).cwd :=
    Session.isNormal_settle hcwd
  have hsuccess : (interpreter.execute session store line now draws).report.success
      = ((interpreter.dispatch name args started store now draws).verdict.toReply name).success := by
    obtain ⟨_, rfl, -, -, hsuccess⟩ := execute_of_words interpreter session store now draws hwords
    exact hsuccess
  cases hfind : Registry.builtin.find? name with
  | none =>
      have hcarried : interpreter.carriedOut session store line now = [] := by
        simp only [carriedOut, hwords, hcommands, hfind]
      have hother : name ∉ ["git", "curl", "wget", "ssh"] := by
        intro hknown
        have hall : ∀ known ∈ ["git", "curl", "wget", "ssh"],
            (Registry.builtin.find? known).isSome = true := by decide
        simpa [hfind] using hall name hknown
      have hnone : (interpreter.invocation name args started now).contacted? = none :=
        Invocation.contacted?_eq_none hother
      simp only [dispatch, hcommands, hfind, List.not_mem_nil, false_and, exists_false, false_iff]
      rintro ⟨text, hhanded, -⟩
      cases hhanded with
      | contacted hraw => simp [hnone] at hraw
      | remote hname _ _ => exact hother (hname ▸ List.mem_cons_self)
      | target hname _ _ => exact hother (hname ▸ List.mem_cons_self)
      | overwritten hwrite _ => simp [mem_undone_iff, hcarried] at hwrite
  | some command =>
      have hcarried : interpreter.carriedOut session store line now
          = command.carriedOut (interpreter.invocation name args started now) store := by
        simp only [carriedOut, hwords, hcommands, hfind, started]
      have hran := dispatch_of_find? args started store now draws hcommands hfind
      have hproper := fun script =>
        (Registry.reporting_builtin _ (Registry.mem_of_find? hfind)).proper
          (interpreter.invocation name args started now) store script hstart hsafe
      rw [hran] at hsuccess ⊢
      rw [Command.run_hasControl_iff name hproper hsafe,
        Registry.announced_hasControl_iff hfind, ← hsuccess, ← hcarried]
      constructor
      · rintro ((⟨raw, hraw, hcontrol⟩ | ⟨hname, remote, target, hclone, hfree, hcontrol⟩)
          | ⟨hfailed, path, content, permissions, hwrite, hlarge, hcontrol⟩)
        · exact ⟨_, .contacted hraw, hcontrol⟩
        · rcases hcontrol with hremote | htarget
          · exact ⟨_, .remote hname hclone hfree, hremote⟩
          · exact ⟨_, .target hname hclone hfree, htarget⟩
        · exact ⟨_, .overwritten (mem_undone_iff.mpr ⟨hfailed, hwrite⟩) hlarge, hcontrol⟩
      · rintro ⟨text, hhanded, hcontrol⟩
        cases hhanded with
        | contacted hraw => exact Or.inl (Or.inl ⟨_, hraw, hcontrol⟩)
        | remote hname hclone hfree =>
            exact Or.inl (Or.inr ⟨hname, _, _, hclone, hfree, Or.inl hcontrol⟩)
        | target hname hclone hfree =>
            exact Or.inl (Or.inr ⟨hname, _, _, hclone, hfree, Or.inr hcontrol⟩)
        | overwritten hwrite hlarge =>
            obtain ⟨hfailed, hcarriedOut⟩ := mem_undone_iff.mp hwrite
            exact Or.inr ⟨hfailed, _, _, _, hcarriedOut, hlarge, hcontrol⟩

/-- What the verdict of a command tells the log holds no control character. -/
lemma not_hasControl_of_verdict (session : Session) (store : Store) (name : String)
    (args : List String) (now : Instant) (draws : Draws)
    (hcommands : interpreter.commands = Registry.builtin) :
    ∀ event ∈ (interpreter.dispatch name args session store now draws).verdict.events name,
      ¬ event.HasControl := by
  intro event hevent hcontrol
  have hregular := dispatch_regular session store name args now draws hcommands
  cases hfind : Registry.builtin.find? name with
  | none => simp [dispatch, hcommands, hfind, Verdict.failed, Verdict.events] at hevent
  | some command =>
      have hname := Registry.not_hasControl hfind
      rcases Verdict.mem_events hregular hevent with ⟨breach, rfl⟩ | rfl
      · exact (Log.hasControl_of_fields rfl hcontrol).elim hname (Log.not_hasControl_breach breach)
      · exact (Log.hasControl_of_fields rfl hcontrol).elim hname (Log.not_hasControl_sanitize _)

/-- A working directory is told by the line that is dispatched there, or by the session that leaves
it. -/
lemma exists_event_of_cwd (now : Instant) (draws : Draws)
    (hwords : Text.words (Text.trim line) = name :: args) (h : HasControl session.cwd) :
    ∃ event ∈ (interpreter.execute session store line now draws).events, event.HasControl := by
  simp only [execute, hwords]
  rcases (session.record (Text.trim line)).stays_or_vanished store with hstays | ⟨dir, hvanished⟩
  · refine ⟨.dispatched (interpreter.policy.describe name args) session.cwd, ?_,
      ("cwd", session.cwd), List.mem_cons_of_mem _ List.mem_cons_self, h⟩
    rw [hstays]
    simp [Session.record]
  · refine ⟨.directoryVanished session.cwd dir, ?_, _, List.mem_cons_self, h⟩
    simp only [List.mem_append]
    exact Or.inl (Or.inl (Or.inl (Or.inl (Or.inl hvanished))))

/-- **A line puts a control character into the log** exactly if it hands one over. -/
theorem execute_hasControl_iff (now : Instant) (draws : Draws)
    (hwords : Text.words (Text.trim line) = name :: args)
    (hcommands : interpreter.commands = Registry.builtin) (hcwd : IsNormal session.cwd)
    (hsafe : Safe store) :
    let started := ((session.record (Text.trim line)).settle store).1
    (∃ event ∈ (interpreter.execute session store line now draws).events, event.HasControl)
      ↔ ∃ text, Bare (interpreter.invocation name args started now) store session.cwd
          (interpreter.undone session store line now draws) text ∧ HasControl text := by
  intro started
  have hrecorded : IsNormal (session.record (Text.trim line)).cwd := hcwd
  have hstart : IsNormal started.cwd := Session.isNormal_settle hrecorded
  have hbefore : HasControl started.cwd → HasControl session.cwd :=
    Session.hasControl_of_settle hsafe hrecorded
  have htool := dispatch_hasControl_iff now draws hwords hcommands hcwd hsafe
  constructor
  · rintro ⟨event, hevent, hcontrol⟩
    simp only [execute, hwords, List.mem_append, List.mem_singleton] at hevent
    rcases hevent with ((((hsettles | rfl) | hran) | hverdict) | hfailure) | hleaves
    · obtain ⟨-, hbelow, rfl⟩ := Session.mem_settle_events hsafe.tree hrecorded hsettles
      refine ⟨_, .cwd, ?_⟩
      rcases Log.hasControl_of_fields rfl hcontrol with hfrom | hto
      · exact hfrom
      · exact Path.hasControl_of_isBelow hbelow hto
    · rcases Log.hasControl_of_fields rfl hcontrol with hcommand | hplace
      · exact absurd hcommand (Log.not_hasControl_describe _ _ _)
      · exact ⟨_, .cwd, hbefore hplace⟩
    · obtain ⟨text, hhanded, htext⟩ := htool.mp ⟨event, hran, hcontrol⟩
      exact ⟨text, .handed hhanded, htext⟩
    · exact absurd hcontrol
        (not_hasControl_of_verdict started store name args now draws hcommands event hverdict)
    · simp only [failureEvents] at hfailure
      split at hfailure
      · obtain rfl := List.mem_singleton.mp hfailure
        refine ⟨_, .name, ?_⟩
        exact (Log.hasControl_of_fields rfl hcontrol).resolve_right (Log.not_hasControl_sanitize _)
      · simp at hfailure
    · obtain ⟨dir, hbelow, rfl⟩ :=
        mem_leaving_events name args now draws hcommands hstart hsafe event hleaves
      refine ⟨_, .cwd, hbefore ?_⟩
      rcases Log.hasControl_of_fields rfl hcontrol with hfrom | hto
      · exact hfrom
      · exact Path.hasControl_of_isBelow hbelow hto
  · rintro ⟨text, hbare, hcontrol⟩
    cases hbare with
    | cwd => exact exists_event_of_cwd now draws hwords hcontrol
    | name =>
        -- the built-in commands have other names, so this one is not found
        have hnone : Registry.builtin.find? name = none := by
          by_contra hsome
          obtain ⟨command, hfind⟩ := Option.ne_none_iff_exists'.mp hsome
          exact Registry.not_hasControl hfind (Log.hasControl_of_truncate hcontrol)
        have herror : (interpreter.execute session store line now draws).report.error
            = some (name ++ ": command not found") := by
          simp [execute, hwords, dispatch, hcommands, hnone, Verdict.failed, Verdict.toReply,
            Reply.failed]
        exact ⟨_, mem_events_of_failed hwords herror, _, List.mem_cons_self, hcontrol⟩
    | handed hhanded =>
        obtain ⟨event, hevent, hshows⟩ := htool.mpr ⟨text, hhanded, hcontrol⟩
        exact ⟨event, mem_events_of_dispatch hwords hevent, hshows⟩

end Interpreter

/-! ## Lines -/

namespace Shell

variable {shell : Shell} {id : Nat} {seat : Seat}

end Shell

end VirtualShell
