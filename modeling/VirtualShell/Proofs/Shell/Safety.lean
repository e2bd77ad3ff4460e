import VirtualShell.Proofs.Command.Files
import VirtualShell.Proofs.Command.Tools
import VirtualShell.Shell.Basic
import VirtualShell.Shell.Builtins

/-!
# Every namespace of every shell is safe

Sessions come and go and execute lines in any order.  `Shell.run` is such a history, and it keeps
`Shell.Sound`: the commands are sound, all namespaces are safe, and every session stands in a
directory that is spelled in normal form.

A line is one command between two settlings, and settling goes up from a normal path, so it ends at
one.  That the commands are sound was proved of each of them; here they are only collected.
-/

namespace VirtualShell

open Time (Instant)

open VirtualShell.Path (IsNormal)

open Store (Safe)

/-! ## The commands -/

/-- What is found under a name is registered under it. -/
lemma Registry.mem_of_find? {registry : Registry} {name : String} {command : Command}
    (h : registry.find? name = some command) : (name, command) ∈ registry := by
  obtain ⟨entry, hentry, rfl⟩ := Option.map_eq_some_iff.mp h
  have hname : entry.1 = name := by simpa using List.find?_some hentry
  exact hname ▸ List.mem_of_find?_eq_some hentry

/-- **Every built-in command is gentle, but for the two that take nodes away.** -/
theorem Registry.gentle_or_sound :
    ∀ entry ∈ Registry.builtin,
      entry.2.Gentle ∨ (entry.1 = "rm" ∨ entry.1 = "mv") ∧ entry.2.Sound := by
  open Command in
  simp only [Registry.builtin, List.forall_mem_cons]
  exact ⟨.inl (gentle_inspect _), .inl gentle_cd, .inl (gentle_inspect _),
    .inl (gentle_inspect _), .inl gentle_mkdir, .inl gentle_touch, .inl (gentle_inspect _),
    .inl gentle_echo, .inr ⟨.inl trivial, sound_rm⟩, .inl gentle_cp, .inr ⟨.inr trivial, sound_mv⟩,
    .inl gentle_chmod, .inl (gentle_inspect _), .inl gentle_git, .inl (gentle_inspect _),
    .inl (gentle_inspect _), .inl (gentle_inspect _), .inl (gentle_inspect _), .inl gentle_javac,
    .inl gentle_gcc, .inl gentle_gcc, .inl gentle_npm, .inl (gentle_inspect _),
    .inl (gentle_inspect _), .inl (gentle_inspect _), .inl (gentle_inspect _),
    .inl (gentle_inspect _), .inl gentle_curl, .inl gentle_wget, .inl gentle_ssh,
    .inl (gentle_inspect _), .inl (gentle_inspect _), .inl (gentle_monitor _),
    .inl (gentle_monitor _), .inl (gentle_monitor _), .inl (gentle_monitor _),
    .inl (gentle_monitor _), .inl (gentle_inspect _), .inl (gentle_inspect _),
    .inl (gentle_inspect _), .inl (gentle_inspect _), .inl gentle_tar, .inl gentle_zip,
    .inl (gentle_inspect _), .inl (gentle_inspect _), .inl (gentle_inspect _),
    .inl (gentle_inspect _), List.forall_mem_nil _⟩

theorem Registry.sound_builtin : ∀ entry ∈ Registry.builtin, entry.2.Sound :=
  fun entry hentry => (gentle_or_sound entry hentry).elim Command.Gentle.sound And.right

/-! ## One line -/

lemma Path.isNormal_of_mem_go {path : String} (h : IsNormal path) (n : Nat) :
    ∀ up ∈ selfAndAncestors.go n path, IsNormal up := by
  induction n generalizing path with
  | zero => simpa [selfAndAncestors.go] using h
  | succ n ih =>
      simp only [selfAndAncestors.go]
      cases hup : parent? path with
      | none => simpa using h
      | some up => exact List.forall_mem_cons.mpr ⟨h, ih (h.of_parent? hup)⟩

lemma Session.isNormal_nearestDirectory {store : Store} {cwd : String} (h : IsNormal cwd) :
    IsNormal (nearestDirectory store cwd) := by
  have hall := Path.isNormal_of_mem_go h cwd.length
  unfold nearestDirectory
  dsimp only
  split
  · rename_i dir hfind
    exact hall dir (List.mem_of_find?_eq_some hfind)
  · rw [List.getLastD_eq_getLast?]
    cases hlast : (Path.selfAndAncestors cwd).getLast? with
    | none => exact h
    | some last => exact hall last (List.mem_of_getLast? hlast)

lemma Session.isNormal_settle {session : Session} {store : Store} (h : IsNormal session.cwd) :
    IsNormal (session.settle store).1.cwd := by
  unfold settle
  dsimp only
  split
  · exact h
  · exact isNormal_nearestDirectory h

namespace Interpreter

variable {interpreter : Interpreter} {session : Session} {store : Store} {line name : String}
  {args : List String} {now : Instant} {draws : Draws}

lemma dispatch_sound (name : String) (args : List String) (now : Instant) (draws : Draws)
    (hcommands : ∀ entry ∈ interpreter.commands, entry.2.Sound)
    (hcwd : IsNormal session.cwd) (hsafe : Safe store) :
    Safe (interpreter.dispatch name args session store now draws).store
      ∧ IsNormal (interpreter.dispatch name args session store now draws).session.cwd := by
  simp only [dispatch]
  cases hfind : interpreter.commands.find? name with
  | none => exact ⟨hsafe, hcwd⟩
  | some command =>
      exact hcommands _ (Registry.mem_of_find? hfind) _ store draws hcwd hsafe

/-- What a line with words does: its command runs in a session that has settled, and the session
settles once more. -/
lemma execute_of_words (interpreter : Interpreter) (session : Session) (store : Store)
    (now : Instant) (draws : Draws) (h : Text.words (Text.trim line) = name :: args) :
    ∃ settled, settled = ((session.record (Text.trim line)).settle store).1
      ∧ (interpreter.execute session store line now draws).store
        = (interpreter.dispatch name args settled store now draws).store
      ∧ (interpreter.execute session store line now draws).session
        = ((interpreter.dispatch name args settled store now draws).session.settle
            (interpreter.dispatch name args settled store now draws).store).1
      ∧ (interpreter.execute session store line now draws).report.success
        = ((interpreter.dispatch name args settled store now draws).verdict.toReply name).success :=
  ⟨_, rfl, by simp [execute, h]⟩

theorem execute_sound (line : String) (now : Instant) (draws : Draws)
    (hcommands : ∀ entry ∈ interpreter.commands, entry.2.Sound)
    (hcwd : IsNormal session.cwd) (hsafe : Safe store) :
    Safe (interpreter.execute session store line now draws).store
      ∧ IsNormal (interpreter.execute session store line now draws).session.cwd := by
  cases hwords : Text.words (Text.trim line) with
  | nil => simpa [execute, hwords] using ⟨hsafe, hcwd⟩
  | cons name args =>
      obtain ⟨settled, hsettled, hstore, hsession, -⟩ := execute_of_words
        interpreter session store now draws hwords
      have hstart : IsNormal settled.cwd := by
        rw [hsettled]
        exact Session.isNormal_settle hcwd
      obtain ⟨hafter, hend⟩ := dispatch_sound name args now draws hcommands hstart hsafe
      rw [hstore, hsession]
      exact ⟨hafter, Session.isNormal_settle hend⟩

end Interpreter

/-! ## Histories of a shell -/

namespace Shell

/-- One thing that can happen to a shell. -/
inductive Step where
  | create
  | execute (id : Nat) (line : String) (draws : Draws)
  | close (id : Nat)

/-- The shell after a step; a line for a session that is not live changes nothing. -/
def after (shell : Shell) (now : Instant) : Step → Shell
  | .create => (shell.create now).2.1
  | .execute id line draws =>
    match shell.execute id line now draws with
    | .ok executed => executed.shell
    | .error _ => shell
  | .close id => (shell.close id).2.1

/-- The shell after a history, each step with the reading of the clock at its time. -/
def run (shell : Shell) (steps : List (Instant × Step)) : Shell :=
  steps.foldl (fun shell entry => shell.after entry.1 entry.2) shell

/-- All namespaces of a shell: the common one, and those that sessions have to themselves. -/
def stores (shell : Shell) : List Store :=
  shell.commons :: shell.seats.filterMap fun entry => entry.2.ownStore

/-- What every history keeps. -/
structure Sound (shell : Shell) : Prop where
  commands : ∀ entry ∈ shell.interpreter.commands, entry.2.Sound
  safe : ∀ store ∈ shell.stores, Safe store
  standing : ∀ entry ∈ shell.seats, IsNormal entry.2.session.cwd

variable {shell : Shell} {now : Instant} {id : Nat} {seat : Seat}

lemma mem_stores {store : Store} :
    store ∈ shell.stores
      ↔ store = shell.commons ∨ ∃ entry ∈ shell.seats, entry.2.ownStore = some store := by
  simp [stores]

/-- What is found under a number stands in the table under it. -/
lemma mem_seats_of_seat? (h : shell.seat? id = some seat) : (id, seat) ∈ shell.seats := by
  obtain ⟨entry, hentry, rfl⟩ := Option.map_eq_some_iff.mp h
  have hid : entry.1 = id := by simpa using List.find?_some hentry
  exact hid ▸ List.mem_of_find?_eq_some hentry

lemma exists_of_seat? (h : shell.seat? id = some seat) : ∃ entry ∈ shell.seats, entry.2 = seat :=
  ⟨_, mem_seats_of_seat? h, rfl⟩

/-- A seat acts on a namespace of the shell. -/
lemma storeOf_mem (h : shell.seat? id = some seat) : shell.storeOf seat ∈ shell.stores := by
  obtain ⟨entry, hentry, rfl⟩ := exists_of_seat? h
  rw [mem_stores, storeOf]
  cases hown : entry.2.ownStore with
  | none => exact Or.inl rfl
  | some store => exact Or.inr ⟨entry, hentry, hown⟩

/-- When a session moves on, its seat takes it, with its namespace if that is its own. -/
lemma seats_advance (shell : Shell) (id : Nat) (seat : Seat) (session : Session) (store : Store) :
    (shell.advance id seat session store).seats
      = shell.seats.map fun entry =>
          if entry.1 = id then (id, ⟨session, seat.ownStore.map fun _ => store⟩) else entry := by
  simp only [advance]
  cases seat.ownStore <;> rfl

lemma mem_seats_advance {session : Session} {store : Store} {entry : Nat × Seat}
    (h : entry ∈ (shell.advance id seat session store).seats) :
    entry.2.session = session ∧ entry.2.ownStore = seat.ownStore.map (fun _ => store)
      ∨ entry ∈ shell.seats := by
  rw [seats_advance, List.mem_map] at h
  obtain ⟨before, hbefore, rfl⟩ := h
  split_ifs
  · exact Or.inl ⟨rfl, rfl⟩
  · exact Or.inr hbefore

lemma commons_advance (shell : Shell) (id : Nat) (seat : Seat) (session : Session) (store : Store) :
    (shell.advance id seat session store).commons = store
      ∨ (shell.advance id seat session store).commons = shell.commons := by
  simp only [advance]
  cases seat.ownStore with
  | none => exact Or.inl rfl
  | some own => exact Or.inr rfl

/-! What holds of all namespaces still does after a session has begun, has ended or has moved on, if
it holds of the namespace that comes with that. -/

section Namespaces

variable {P : Store → Prop} (h : ∀ store ∈ shell.stores, P store)

include h

lemma forall_stores_create (hnew : P (.new shell.limits now)) :
    ∀ store ∈ (shell.create now).2.1.stores, P store := by
  intro store hstore
  rcases mem_stores.mp hstore with rfl | ⟨entry, hentry, hown⟩
  · exact h _ (mem_stores.mpr (Or.inl rfl))
  · rcases List.mem_append.mp hentry with hentry | hentry
    · exact h store (mem_stores.mpr (Or.inr ⟨entry, hentry, hown⟩))
    · obtain rfl := List.mem_singleton.mp hentry
      cases hisolation : shell.isolation with
      | shared => simp [hisolation] at hown
      | perSession =>
          obtain rfl : Store.new shell.limits now = store := by simpa [hisolation] using hown
          exact hnew

lemma forall_stores_close : ∀ store ∈ (shell.close id).2.1.stores, P store := by
  simp only [close]
  split
  · intro store hstore
    rcases mem_stores.mp hstore with rfl | ⟨entry, hentry, hown⟩
    · exact h _ (mem_stores.mpr (Or.inl rfl))
    · exact h store (mem_stores.mpr (Or.inr ⟨entry, List.mem_of_mem_filter hentry, hown⟩))
  · exact h

lemma forall_stores_advance {session : Session} {store : Store} (hstore : P store) :
    ∀ other ∈ (shell.advance id seat session store).stores, P other := by
  intro other hother
  rcases mem_stores.mp hother with rfl | ⟨entry, hentry, hown⟩
  · rcases commons_advance shell id seat session store with hcommons | hcommons
    · rwa [hcommons]
    · rw [hcommons]
      exact h _ (mem_stores.mpr (Or.inl rfl))
  · rcases mem_seats_advance hentry with ⟨-, hnew⟩ | hbefore
    · rw [hnew, Option.map_eq_some_iff] at hown
      obtain ⟨_, -, rfl⟩ := hown
      exact hstore
    · exact h other (mem_stores.mpr (Or.inr ⟨entry, hbefore, hown⟩))

end Namespaces

lemma sound_new {interpreter : Interpreter} {isolation : Isolation} {limits : Limits}
    (hcommands : interpreter.commands = Registry.builtin) :
    Sound (new interpreter isolation limits now) := by
  refine ⟨?_, ?_, by simp [new]⟩
  · change ∀ entry ∈ interpreter.commands, entry.2.Sound
    rw [hcommands]
    exact Registry.sound_builtin
  · simpa [stores, new] using Store.safe_new limits now

lemma sound_create (h : Sound shell) : Sound (shell.create now).2.1 := by
  refine ⟨h.commands, forall_stores_create h.safe (Store.safe_new shell.limits now), ?_⟩
  intro entry hentry
  rcases List.mem_append.mp hentry with hentry | hentry
  · exact h.standing entry hentry
  · obtain rfl := List.mem_singleton.mp hentry
    have hhome : IsNormal Path.home := by decide
    exact hhome

lemma sound_close (h : Sound shell) : Sound (shell.close id).2.1 := by
  have hsafe : ∀ store ∈ (shell.close id).2.1.stores, Safe store := forall_stores_close h.safe
  simp only [close] at hsafe ⊢
  split
  · rename_i hlive
    rw [if_pos hlive] at hsafe
    exact ⟨h.commands, hsafe,
      fun entry hentry => h.standing entry (List.mem_of_mem_filter hentry)⟩
  · exact h

lemma interpreter_advance {session : Session} {store : Store} :
    (shell.advance id seat session store).interpreter = shell.interpreter := by
  simp only [advance]
  cases seat.ownStore <;> rfl

/-- A session may move on to a normal path and leave a safe namespace behind. -/
lemma sound_advance {session : Session} {store : Store} (h : Sound shell) (hsafe : Safe store)
    (hcwd : IsNormal session.cwd) : Sound (shell.advance id seat session store) := by
  refine ⟨?_, forall_stores_advance h.safe hsafe, ?_⟩
  · rw [interpreter_advance]
    exact h.commands
  · intro entry hentry
    rcases mem_seats_advance hentry with ⟨hnew, -⟩ | hbefore
    · rw [hnew]
      exact hcwd
    · exact h.standing entry hbefore

lemma sound_execute {line : String} {draws : Draws} {executed : Executed} (h : Sound shell)
    (hexecute : shell.execute id line now draws = .ok executed) : Sound executed.shell := by
  simp only [execute] at hexecute
  cases hseat : shell.seat? id with
  | none => simp [hseat] at hexecute
  | some seat =>
      simp only [hseat] at hexecute
      obtain rfl := Except.ok.inj hexecute
      obtain ⟨entry, hentry, rfl⟩ := exists_of_seat? hseat
      obtain ⟨hsafe, hcwd⟩ := Interpreter.execute_sound line now draws h.commands
        (h.standing entry hentry) (h.safe _ (storeOf_mem hseat))
      exact sound_advance h hsafe hcwd

theorem sound_after {step : Step} (h : Sound shell) : Sound (shell.after now step) := by
  cases step with
  | create => exact sound_create h
  | close id => exact sound_close h
  | execute id line draws =>
      simp only [after]
      cases hexecute : shell.execute id line now draws with
      | error failure => simpa [hexecute] using h
      | ok executed => simpa [hexecute] using sound_execute h hexecute

theorem sound_run {steps : List (Instant × Step)} (h : Sound shell) : Sound (shell.run steps) := by
  induction steps generalizing shell with
  | nil => exact h
  | cons entry rest ih => exact ih (sound_after h)

/-- A shell with the built-in commands after any history. -/
def Reachable (shell : Shell) : Prop :=
  ∃ hostname policy naming isolation limits start steps,
    shell = (new ⟨Registry.builtin, hostname, policy, naming⟩ isolation limits start).run steps

lemma Reachable.sound (h : Reachable shell) : Sound shell := by
  obtain ⟨hostname, policy, naming, isolation, limits, start, steps, rfl⟩ := h
  exact sound_run (sound_new rfl)

/-- **Every namespace of every reachable shell** is a coherent tree whose nodes show ten characters
of permissions, the first for their kind and each other the letter of its place or a hyphen. -/
theorem namespaces_safe (hostname : String) (policy : Log.Policy) (naming : Url.Naming)
    (isolation : Isolation) (limits : Limits) (start : Instant) (steps : List (Instant × Step)) :
    ∀ store ∈ ((new ⟨Registry.builtin, hostname, policy, naming⟩ isolation limits start).run
        steps).stores,
      Store.Coherent store
        ∧ ∀ path node, store.get? path = some node → Displays node.kind node.permissions := by
  intro store hstore
  have hreach : Reachable
      ((new ⟨Registry.builtin, hostname, policy, naming⟩ isolation limits start).run steps) :=
    ⟨hostname, policy, naming, isolation, limits, start, steps, rfl⟩
  have hsafe := hreach.sound.safe store hstore
  exact ⟨hsafe.tree.coherent, fun path node hget => hsafe.displays_of_get? hget⟩

/-- In a namespace of its own, a session makes a directory under a careless spelling, changes its
mode and copies it; the copy shows the new mode. -/
theorem namespaces_safe_of_chmod :
    ∃ shell seat, shell = (new .usual .perSession {} ⟨0, 0⟩).run
        [(⟨0, 0⟩, .create),
         (⟨1, 0⟩, .execute 1 "mkdir ../user//a/" []),
         (⟨2, 0⟩, .execute 1 "chmod 750 a" []),
         (⟨3, 0⟩, .execute 1 "cp -r a b" [])]
      ∧ shell.seat? 1 = some seat ∧ Store.Coherent (shell.storeOf seat)
      ∧ ((shell.storeOf seat).get? "/home/user/b").map Node.permissions = some "drwxr-x---" := by
  obtain ⟨shell, hshell⟩ : ∃ shell, shell =
      (new .usual .perSession {} ⟨0, 0⟩).run
        [(⟨0, 0⟩, .create),
         (⟨1, 0⟩, .execute 1 "mkdir ../user//a/" []),
         (⟨2, 0⟩, .execute 1 "chmod 750 a" []),
         (⟨3, 0⟩, .execute 1 "cp -r a b" [])] := ⟨_, rfl⟩
  have hmode : (shell.store? 1).bind (fun store => (store.get? "/home/user/b").map Node.permissions)
      = some "drwxr-x---" := by
    rw [hshell]
    decide +kernel
  obtain ⟨store, hstore, hnode⟩ := Option.bind_eq_some_iff.mp hmode
  obtain ⟨seat, hseat, rfl⟩ := Option.map_eq_some_iff.mp hstore
  have hmem : shell.storeOf seat ∈ shell.stores := storeOf_mem hseat
  rw [hshell] at hmem
  obtain ⟨hcoherent, -⟩ := namespaces_safe _ _ _ _ _ _ _ _ hmem
  rw [← hshell] at hcoherent
  exact ⟨shell, seat, hshell, hseat, hcoherent, hnode⟩

end Shell

end VirtualShell
