import VirtualShell.Proofs.Command.Events
import VirtualShell.Proofs.Command.Verdicts
import VirtualShell.Proofs.Shell.WorkingDirectory

/-!
# What a line tells the log

Executing a line emits events from six places: the session settles, the line is dispatched, the
command announces what it would contact and its script reports what it could not restore, the
verdict of the command may be a breach of a limit or a panic, a failed reply is noted, and the
session settles again.  `Told` lists them with what their fields are made of, and it is complete
(`Interpreter.told_of_execute`): a statement about every field of every event is a case analysis.

Settling behind a command goes up from where the command was dispatched: `cd` has changed to a
directory that is there, and no other command changes the directory.
-/

namespace VirtualShell

open Time (Instant)

open VirtualShell.Path (IsNormal)

open Store (Safe WellFormed)

/-- An event that a line may emit whose command was called with `call`, in a session that stood in
`cwd` before it settled, and that was answered with `report`. -/
inductive Told (call : Invocation) (store : Store) (cwd : String) (report : Report) :
    Log.Event → Prop where
  | moved (h : Path.isBelow cwd call.cwd = true) :
      Told call store cwd report (.directoryVanished cwd call.cwd)
  | dispatched :
      Told call store cwd report
        (.dispatched (call.policy.describe call.name call.args) call.cwd)
  | contacts {event : Log.Event} (h : Command.Contacts call event) :
      Told call store cwd report event
  | cloned {event : Log.Event} (hname : call.name = "git") (h : Command.Clones call store event) :
      Told call store cwd report event
  | refused {event : Log.Event} (h : Undo.Refused store event) : Told call store cwd report event
  | limited (breach : Breach) : Told call store cwd report (.limitReached call.name breach.message)
  | panicked :
      Told call store cwd report (.panicked call.name (Log.sanitize Command.textlessItem))
  | failed {error : String} (h : report.error = some error) :
      Told call store cwd report
        (.commandFailed (call.policy.truncate call.name)
          (Log.sanitize (call.policy.truncate error)))
  | left {dir : String} (h : Path.isBelow call.cwd dir = true) :
      Told call store cwd report (.directoryVanished call.cwd dir)

/-! ## Where the events come from -/

/-- A session tells when its directory is gone and it goes up. -/
lemma Session.mem_settle_events {session : Session} {store : Store} {event : Log.Event}
    (hwell : WellFormed store) (hcwd : IsNormal session.cwd)
    (h : event ∈ (session.settle store).2) :
    store.isDirectory session.cwd = false
      ∧ Path.isBelow session.cwd (session.settle store).1.cwd = true
      ∧ event = .directoryVanished session.cwd (session.settle store).1.cwd := by
  have hnear := nearest_nearestDirectory hwell hcwd
  rw [settle_eq]
  simp only [settle] at h
  split_ifs at h with hsame
  · simp at h
  · have hbelow := hnear.above.resolve_left (Ne.symm hsame)
    refine ⟨?_, hbelow, by simpa using h⟩
    by_contra hthere
    have hlonger := hnear.longest session.cwd (Or.inl rfl) (by simpa using hthere)
    have hshorter := Path.length_lt_of_isBelow hcwd
      (hwell.isNormal_of_isDirectory hnear.present) hbelow
    omega

lemma Verdict.mem_events {verdict : Verdict} {name : String} {event : Log.Event}
    (hregular : verdict.Regular) (h : event ∈ verdict.events name) :
    (∃ breach : Breach, event = .limitReached name breach.message)
      ∨ event = .panicked name (Log.sanitize Command.textlessItem) := by
  unfold events at h
  split at h
  · exact Or.inl ⟨_, List.mem_singleton.mp h⟩
  · rename_i message
    have hmessage : message = Command.textlessItem := hregular
    exact Or.inr (hmessage ▸ List.mem_singleton.mp h)
  · simp at h

namespace Interpreter

variable {interpreter : Interpreter} {session : Session} {store : Store} {line name : String}
  {args : List String} {now : Instant} {draws : Draws} {event : Log.Event}

lemma dispatch_regular (session : Session) (store : Store) (name : String) (args : List String)
    (now : Instant) (draws : Draws) (hcommands : interpreter.commands = Registry.builtin) :
    (interpreter.dispatch name args session store now draws).verdict.Regular := by
  cases hfind : Registry.builtin.find? name with
  | none =>
      simp only [dispatch, hcommands, hfind]
      exact Verdict.regular_failed _
  | some command =>
      rw [dispatch_of_find? args session store now draws hcommands hfind]
      exact Registry.regular_builtin _ (Registry.mem_of_find? hfind) _ store draws

/-- What a command tells while it runs. -/
lemma mem_dispatch_events (hcommands : interpreter.commands = Registry.builtin)
    (hcwd : IsNormal session.cwd) (hsafe : Safe store)
    (h : event ∈ (interpreter.dispatch name args session store now draws).events) :
    Command.Contacts (interpreter.invocation name args session now) event
      ∨ name = "git" ∧ Command.Clones (interpreter.invocation name args session now) store event
      ∨ Undo.Refused store event := by
  cases hfind : Registry.builtin.find? name with
  | none => simp [dispatch, hcommands, hfind] at h
  | some command =>
      rw [dispatch_of_find? args session store now draws hcommands hfind] at h
      have hreporting := Registry.reporting_builtin _ (Registry.mem_of_find? hfind)
      have hproper := fun script => hreporting.proper (interpreter.invocation name args session now)
        store script hcwd hsafe
      rcases Command.mem_run_events hproper hsafe h with hsaid | hrefused
      · exact (hreporting.announces _ store event hsaid).imp_right Or.inl
      · exact Or.inr (Or.inr hrefused)

/-- Behind a command the session stands where it was dispatched, or in a directory. -/
lemma dispatch_stands (session : Session) (store : Store) (name : String) (args : List String)
    (now : Instant) (draws : Draws) (hcommands : interpreter.commands = Registry.builtin) :
    let ran := interpreter.dispatch name args session store now draws
    ran.session.cwd = session.cwd ∨ ran.store.isDirectory ran.session.cwd = true := by
  intro ran
  by_cases hname : name = "cd"
  · subst hname
    have hfind : Registry.builtin.find? "cd" = some Command.cd := rfl
    have hran : ran = _ := dispatch_of_find? args session store now draws hcommands hfind
    rcases Command.run_cd_cases (interpreter.invocation "cd" args session now) store draws with
      ⟨dir, shown, -, hdir, hcd⟩ | ⟨complaint, hcd⟩
    · rw [hran, hcd]
      exact Or.inr hdir
    · rw [hran, hcd]
      exact Or.inl rfl
  · rcases dispatch_cwd_cases name args session store now draws hcommands with
      ⟨hcd, -⟩ | ⟨-, hsame⟩
    · exact absurd hcd hname
    · exact Or.inl hsame

/-- A session that settles behind a command leaves the directory where that was dispatched. -/
lemma mem_leaving_events (name : String) (args : List String) (now : Instant) (draws : Draws)
    (hcommands : interpreter.commands = Registry.builtin) (hcwd : IsNormal session.cwd)
    (hsafe : Safe store) :
    let ran := interpreter.dispatch name args session store now draws
    ∀ event ∈ (ran.session.settle ran.store).2,
      ∃ dir, Path.isBelow session.cwd dir = true ∧ event = .directoryVanished session.cwd dir := by
  intro ran event hevent
  have hsound : ∀ entry ∈ interpreter.commands, entry.2.Sound := hcommands ▸ Registry.sound_builtin
  obtain ⟨hafter, hend⟩ := dispatch_sound name args now draws hsound hcwd hsafe
  obtain ⟨hgone, hbelow, rfl⟩ := Session.mem_settle_events hafter.tree hend hevent
  have hstands := dispatch_stands session store name args now draws hcommands
  have hsame : ran.session.cwd = session.cwd := hstands.resolve_right fun hthere => by
    rw [hthere] at hgone
    exact Bool.noConfusion hgone
  rw [hsame] at hbelow ⊢
  exact ⟨_, hbelow, rfl⟩

/-- **Every event of a line is one of those listed.** -/
theorem told_of_execute (now : Instant) (draws : Draws)
    (hwords : Text.words (Text.trim line) = name :: args)
    (hcommands : interpreter.commands = Registry.builtin) (hcwd : IsNormal session.cwd)
    (hsafe : Safe store) :
    let outcome := interpreter.execute session store line now draws
    let started := ((session.record (Text.trim line)).settle store).1
    ∀ event ∈ outcome.events,
      Told (interpreter.invocation name args started now) store session.cwd outcome.report
        event := by
  intro outcome started event hevent
  have hstart : IsNormal started.cwd := Session.isNormal_settle hcwd
  have hregular := dispatch_regular started store name args now draws hcommands
  simp only [outcome, execute, hwords, List.mem_append, List.mem_singleton] at hevent
  rcases hevent with ((((hbefore | rfl) | hran) | hverdict) | hfailure) | hlast
  · have hrecorded : IsNormal (session.record (Text.trim line)).cwd := hcwd
    obtain ⟨-, hbelow, rfl⟩ := Session.mem_settle_events hsafe.tree hrecorded hbefore
    exact .moved hbelow
  · exact .dispatched
  · rcases mem_dispatch_events hcommands hstart hsafe hran with
      hcontacts | ⟨hname, hclones⟩ | hrefused
    · exact .contacts hcontacts
    · exact .cloned hname hclones
    · exact .refused hrefused
  · rcases Verdict.mem_events hregular hverdict with ⟨breach, rfl⟩ | rfl
    · exact .limited breach
    · exact .panicked
  · simp only [failureEvents] at hfailure
    split at hfailure
    · rename_i error herror
      rw [List.mem_singleton.mp hfailure]
      refine .failed ?_
      simpa [outcome, execute, hwords] using herror
    · simp at hfailure
  · obtain ⟨dir, hbelow, rfl⟩ :=
      mem_leaving_events name args now draws hcommands hstart hsafe event hlast
    exact .left hbelow

/-- A failed reply is noted. -/
lemma mem_events_of_failed {error : String}
    (hwords : Text.words (Text.trim line) = name :: args)
    (h : (interpreter.execute session store line now draws).report.error = some error) :
    .commandFailed (interpreter.policy.truncate name)
        (Log.sanitize (interpreter.policy.truncate error))
      ∈ (interpreter.execute session store line now draws).events := by
  simp only [execute, hwords] at h ⊢
  simp [failureEvents, h]

/-- What a command tells, its line tells. -/
lemma mem_events_of_dispatch (hwords : Text.words (Text.trim line) = name :: args)
    (h : event ∈ (interpreter.dispatch name args
      ((session.record (Text.trim line)).settle store).1 store now draws).events) :
    event ∈ (interpreter.execute session store line now draws).events := by
  simp only [execute, hwords]
  simp [h]

/-- A clone into a place that is free is told. -/
lemma cloned_mem_events {remote target : String}
    (hwords : Text.words (Text.trim line) = "git" :: args)
    (hcommands : interpreter.commands = Registry.builtin)
    (hclone : ((session.record (Text.trim line)).settle store).1.clone? interpreter.naming args
      = some (remote, target))
    (hfree : store.contains target = false) :
    .cloned (interpreter.policy.redact remote) target
      ∈ (interpreter.execute session store line now draws).events := by
  have hfind : Registry.builtin.find? "git" = some Command.git := rfl
  refine mem_events_of_dispatch hwords ?_
  rw [dispatch_of_find? args _ store now draws hcommands hfind]
  exact Command.announced_subset
    (Command.mem_announced_git.mpr ⟨remote, target, hclone, hfree, rfl⟩)

end Interpreter

end VirtualShell
