import VirtualShell.Command.Basic
import VirtualShell.Proofs.Effect.Safe
import VirtualShell.Shell.Interpreter

/-!
# Sound commands

A command is sound if it keeps a store safe and the session in a directory that is spelled in normal
form, and gentle if moreover it leaves every node where it is.  All commands but two are gentle, so
this is what is proved of them, and soundness follows (`Gentle.sound`).

Two of the five kinds of command are gentle by what they may touch (`gentle_inspect`,
`gentle_monitor`); each of the others comes down to one condition on what it answers.
-/

namespace VirtualShell.Command

open VirtualShell.Path (IsNormal)

open Store (Edited Safe)

/-- A command keeps the namespace safe and the working directory in normal form. -/
def Sound (command : Command) : Prop :=
  ∀ call store draws, IsNormal call.cwd → Safe store →
    Safe (command.run call store draws).store
      ∧ IsNormal (command.run call store draws).session.cwd

/-- A sound command that takes no node away. -/
def Gentle (command : Command) : Prop :=
  ∀ call store draws, IsNormal call.cwd → Safe store →
    Edited store (command.run call store draws).store
      ∧ IsNormal (command.run call store draws).session.cwd

lemma Gentle.sound {command : Command} (h : Gentle command) : Sound command :=
  fun call store draws hcwd hsafe => (h call store draws hcwd hsafe).imp_left Edited.safe

lemma gentle_inspect (answer : Invocation → Store → Verdict) : Gentle (.inspect answer) :=
  fun _ _ _ hcwd hsafe => ⟨.refl hsafe, hcwd⟩

lemma gentle_monitor (answer : Invocation → Draws → Verdict × Draws) : Gentle (.monitor answer) :=
  fun _ _ _ hcwd hsafe => ⟨.refl hsafe, hcwd⟩

/-- A command that changes the directory has to change to one that is there. -/
lemma gentle_navigate {answer : Invocation → Store → Verdict × Option String}
    (hanswer : ∀ call store dir, (answer call store).2 = some dir → store.contains dir = true) :
    Gentle (.navigate answer) := by
  intro call store draws hcwd hsafe
  cases h : answer call store with
  | mk verdict dir =>
      cases dir with
      | none => simpa [run, h] using ⟨.refl hsafe, hcwd⟩
      | some dir =>
          have hthere := hanswer call store dir (by rw [h])
          simpa [run, h] using ⟨.refl hsafe, hsafe.tree.isNormal_of_contains hthere⟩

lemma gentle_edit {answer : Invocation → Store → Verdict × Store}
    (hanswer : ∀ call store, Safe store → Edited store (answer call store).2) :
    Gentle (.edit answer) :=
  fun call store _ hcwd hsafe => ⟨hanswer call store hsafe, hcwd⟩

lemma sound_edit {answer : Invocation → Store → Verdict × Store}
    (hanswer : ∀ call store, Safe store → Safe (answer call store).2) : Sound (.edit answer) :=
  fun call store _ hcwd hsafe => ⟨hanswer call store hsafe, hcwd⟩

/-! ## Simulated tools -/

/-- The script of a plan, if it has one. -/
def planned? : Plan → Option ToolScript
  | .say _ => none
  | .perform script => some script

@[simp] lemma planned?_say (verdict : Verdict) : planned? (.say verdict) = none := rfl

@[simp] lemma planned?_ok (output : String) : planned? (.ok output) = none := rfl

@[simp] lemma planned?_failed (error : String) : planned? (.failed error) = none := rfl

/-- The script that a command performs, if it is a tool that performs one. -/
def script? (command : Command) (call : Invocation) (store : Store) : Option ToolScript :=
  match command with
  | tool plan => planned? (plan call store).1
  | _ => none

variable {call : Invocation} {store : Store} {draws : Draws} {script : ToolScript}
  {plan : Invocation → Store → Plan × List Log.Event}

/-- A tool leaves the store to its script. -/
lemma run_tool_store :
    ((tool plan).run call store draws).store
      = ((script? (tool plan) call store).map fun script =>
          (script.perform store call.now).2.1).getD store := by
  cases hplan : plan call store with
  | mk planned events =>
      cases planned with
      | say verdict => simp [run, script?, planned?, hplan]
      | perform script =>
          cases hperform : script.perform store call.now with
          | mk outcome rest => cases outcome <;> simp [run, script?, planned?, hplan, hperform]

/-- A tool that performs a script ends as the performance does. -/
lemma run_tool_verdict (hscript : script? (tool plan) call store = some script) :
    ((tool plan).run call store draws).verdict
      = match (script.perform store call.now).1 with
        | .ok reply => .reply reply
        | .error failure => .failure failure := by
  cases hplan : plan call store with
  | mk planned events =>
      cases planned with
      | say verdict => simp [script?, planned?, hplan] at hscript
      | perform found =>
          obtain rfl : found = script := by simpa [script?, planned?, hplan] using hscript
          cases hperform : found.perform store call.now with
          | mk outcome rest => cases outcome <;> simp [run, hplan, hperform]

/-- A tool that performs a script succeeds only with what the performance answers. -/
lemma exists_reply_of_success {name : String}
    (hscript : script? (tool plan) call store = some script)
    (hsuccess : (((tool plan).run call store draws).verdict.toReply name).success = true) :
    ∃ reply, (script.perform store call.now).1 = .ok reply
      ∧ ((tool plan).run call store draws).verdict = .reply reply := by
  rw [run_tool_verdict hscript] at hsuccess ⊢
  cases hperform : (script.perform store call.now).1 with
  | error failure =>
      rw [hperform] at hsuccess
      exact Bool.noConfusion hsuccess
  | ok reply => exact ⟨reply, rfl, rfl⟩

lemma run_tool_session : ((tool plan).run call store draws).session = call.session := by
  cases hplan : plan call store with
  | mk planned events =>
      cases planned with
      | say verdict => simp [run, hplan]
      | perform script =>
          cases hperform : script.perform store call.now with
          | mk outcome rest => cases outcome <;> simp [run, hplan, hperform]

/-- A simulated tool is gentle if its scripts are proper. -/
lemma gentle_tool
    (hplan : ∀ call store script, IsNormal call.cwd → Safe store →
      script? (tool plan) call store = some script → script.Proper) : Gentle (.tool plan) := by
  intro call store draws hcwd hsafe
  rw [run_tool_store, run_tool_session]
  refine ⟨?_, hcwd⟩
  cases hscript : script? (tool plan) call store with
  | none => exact .refl hsafe
  | some script =>
      exact ToolScript.perform_edited hsafe (hplan call store script hcwd hsafe hscript)

end VirtualShell.Command
