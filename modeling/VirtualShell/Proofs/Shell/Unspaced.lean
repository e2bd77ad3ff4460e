import VirtualShell.Proofs.Command.Unspaced
import VirtualShell.Proofs.Shell.Line
import VirtualShell.Proofs.Shell.WorkingDirectory

/-!
# Shells without blanks

In no shell that can be reached does a path have a blank in it (`Shell.Reachable.unspaced`): a new
namespace has none, and what a line hands to its command are words, and a directory of the
namespace to name them in.  So a listing of paths can be read back line by line.

`Shell.Reachable.forall_stores` is the induction over the history of a shell, for whatever a line
keeps in the namespace that it works on.
-/

namespace VirtualShell

open Time (Instant)

open VirtualShell.Path (IsNormal)

open Store (Safe)

/-! ## One line -/

theorem Registry.keepsUnspaced_builtin :
    ∀ entry ∈ Registry.builtin, entry.2.KeepsUnspaced := by
  open Command in
  simp only [Registry.builtin, List.forall_mem_cons]
  exact ⟨keepsUnspaced_inspect _, keepsUnspaced_navigate _, keepsUnspaced_inspect _,
    keepsUnspaced_inspect _, keepsUnspaced_mkdir, keepsUnspaced_touch, keepsUnspaced_inspect _,
    keepsUnspaced_echo, keepsUnspaced_rm, keepsUnspaced_cp, keepsUnspaced_mv,
    keepsUnspaced_chmod, keepsUnspaced_inspect _, keepsUnspaced_git, keepsUnspaced_inspect _,
    keepsUnspaced_inspect _, keepsUnspaced_inspect _, keepsUnspaced_inspect _,
    keepsUnspaced_javac, keepsUnspaced_gcc, keepsUnspaced_gcc, keepsUnspaced_npm,
    keepsUnspaced_inspect _, keepsUnspaced_inspect _, keepsUnspaced_inspect _,
    keepsUnspaced_inspect _, keepsUnspaced_inspect _, keepsUnspaced_curl, keepsUnspaced_wget,
    keepsUnspaced_ssh, keepsUnspaced_inspect _, keepsUnspaced_inspect _, keepsUnspaced_monitor _,
    keepsUnspaced_monitor _, keepsUnspaced_monitor _, keepsUnspaced_monitor _,
    keepsUnspaced_monitor _, keepsUnspaced_inspect _, keepsUnspaced_inspect _,
    keepsUnspaced_inspect _, keepsUnspaced_inspect _, keepsUnspaced_tar, keepsUnspaced_zip,
    keepsUnspaced_inspect _, keepsUnspaced_inspect _, keepsUnspaced_inspect _,
    keepsUnspaced_inspect _, List.forall_mem_nil _⟩

namespace Interpreter

variable {interpreter : Interpreter} {session : Session} {store : Store} {line name : String}
  {args : List String}

/-- A command is called with words, in a directory that is there. -/
lemma unspaced_invocation (interpreter : Interpreter) (now : Instant) (hcwd : IsNormal session.cwd)
    (hsafe : Safe store) (h : store.Unspaced)
    (hwords : Text.words (Text.trim line) = name :: args) :
    (interpreter.invocation name args ((session.record (Text.trim line)).settle store).1
      now).Unspaced where
  args := fun arg harg =>
    (Text.unspaced_of_mem_words (hwords ▸ List.mem_cons_of_mem name harg)).2
  cwd := by
    have hnear := Session.nearest_nearestDirectory hsafe.tree hcwd
    obtain ⟨node, hget, -⟩ := Store.isDirectory_iff.mp hnear.present
    change Text.Unspaced ((session.record (Text.trim line)).settle store).1.cwd.toList
    rw [Session.settle_eq]
    exact h.of_get? hget

theorem unspaced_execute (line : String) (now : Instant) (draws : Draws)
    (hcommands : interpreter.commands = Registry.builtin) (hcwd : IsNormal session.cwd)
    (hsafe : Safe store) (h : store.Unspaced) :
    (interpreter.execute session store line now draws).store.Unspaced := by
  cases hwords : Text.words (Text.trim line) with
  | nil => simpa [execute, hwords] using h
  | cons name args =>
      obtain ⟨settled, hsettled, hstore, -⟩ := execute_of_words
        interpreter session store now draws hwords
      have hcall := unspaced_invocation interpreter now hcwd hsafe h hwords
      rw [← hsettled] at hcall
      rw [hstore]
      cases hfind : Registry.builtin.find? name with
      | none => simpa [dispatch, hcommands, hfind] using h
      | some command =>
          rw [dispatch_of_find? args settled store now draws hcommands hfind]
          exact Registry.keepsUnspaced_builtin _ (Registry.mem_of_find? hfind) _ store draws hcall
            hsafe h

end Interpreter

/-! ## Histories of a shell -/

namespace Shell

variable {shell : Shell} {id : Nat} {seat : Seat} {now : Instant}

/-- What new namespaces have and lines keep, all namespaces of reachable shells have. -/
lemma Reachable.forall_stores {P : Store → Prop} (h : Reachable shell)
    (hnew : ∀ limits start, P (.new limits start))
    (hline : ∀ {interpreter : Interpreter} {session : Session} {store : Store} (line : String)
      (now : Instant) (draws : Draws), interpreter.commands = Registry.builtin →
      IsNormal session.cwd → Safe store → P store →
      P (interpreter.execute session store line now draws).store) :
    ∀ store ∈ shell.stores, P store := by
  have hafter : ∀ (shell : Shell) (now : Instant) (step : Step), Sound shell →
      shell.interpreter.commands = Registry.builtin → (∀ store ∈ shell.stores, P store) →
      ∀ store ∈ (shell.after now step).stores, P store := by
    intro shell now step hsound hcommands hall
    cases step with
    | create => exact forall_stores_create hall (hnew _ _)
    | close id => exact forall_stores_close hall
    | execute id line draws =>
        simp only [after, execute]
        cases hseat : shell.seat? id with
        | none => exact hall
        | some seat =>
            obtain ⟨entry, hentry, rfl⟩ := exists_of_seat? hseat
            have hmem := storeOf_mem hseat
            exact forall_stores_advance hall (hline line now draws hcommands
              (hsound.standing entry hentry) (hsound.safe _ hmem) (hall _ hmem))
  obtain ⟨hostname, policy, naming, isolation, limits, start, steps, rfl⟩ := h
  have hbegin : ∀ store ∈
      (new ⟨Registry.builtin, hostname, policy, naming⟩ isolation limits start).stores,
      P store := by simpa [stores, new] using hnew limits start
  have hsound : Sound (new ⟨Registry.builtin, hostname, policy, naming⟩ isolation limits start) :=
    sound_new rfl
  have hcommands : (new ⟨Registry.builtin, hostname, policy, naming⟩ isolation limits
      start).interpreter.commands = Registry.builtin := rfl
  generalize new ⟨Registry.builtin, hostname, policy, naming⟩ isolation limits start = shell
    at hbegin hsound hcommands ⊢
  induction steps generalizing shell with
  | nil => exact hbegin
  | cons entry rest ih =>
      have hsame : (shell.run [entry]).interpreter.commands = Registry.builtin := by
        rw [interpreter_run, hcommands]
      exact ih _ (hafter shell entry.1 entry.2 hsound hcommands hbegin) (sound_after hsound) hsame

/-- **No path of a reachable shell has a blank in it.** -/
theorem Reachable.unspaced (h : Reachable shell) (hseat : shell.seat? id = some seat) :
    (shell.storeOf seat).Unspaced :=
  h.forall_stores Store.unspaced_new
    (fun line now draws => Interpreter.unspaced_execute line now draws) _ (storeOf_mem hseat)

/-- A command of a reachable shell is called with words, in a directory that is there. -/
lemma Reachable.unspaced_called {line name : String} {args : List String} (h : Reachable shell)
    (now : Instant) (hseat : shell.seat? id = some seat)
    (hwords : Text.words (Text.trim line) = name :: args) :
    (shell.called seat line name args now).Unspaced
      ∧ (shell.storeOf seat).isDirectory (shell.called seat line name args now).cwd = true := by
  refine ⟨Interpreter.unspaced_invocation _ now (h.isNormal_cwd hseat) (h.safe hseat)
    (h.unspaced hseat) hwords, ?_⟩
  rw [called_cwd]
  exact (Session.nearest_nearestDirectory (h.safe hseat).tree (h.isNormal_cwd hseat)).present

end Shell

end VirtualShell
