import VirtualShell.Proofs.Shell.WorkingDirectory

/-!
# How commands end

A verdict is regular if the shell can word it: a reply has an error if and only if it is no success,
and shows its error if it shows anything; and a command breaks off only over an item of a pattern
that has no text.  All built-in commands end in regular verdicts (`Registry.regular_builtin`), which
is read off each of them by the cases of its arguments.
-/

namespace VirtualShell

/-! ## Regular verdicts -/

/-- A reply whose error, if there is one, marks a failure and is shown. -/
def Reply.Regular (reply : Reply) : Prop :=
  reply.success = reply.error.isNone
    ∧ ∀ error, reply.error = some error →
      reply.output = "" ∨ error.toList <:+: reply.output.toList

namespace Verdict

/-- A regular reply, any failure, or the one panic that there is. -/
def Regular : Verdict → Prop
  | reply answer => answer.Regular
  | failure _ => True
  | panic message => message = Command.textlessItem

@[simp] lemma regular_ok (output : String) : (Verdict.ok output).Regular :=
  ⟨rfl, by simp [Reply.ok]⟩

@[simp] lemma regular_failed (error : String) : (Verdict.failed error).Regular :=
  ⟨rfl, fun _ _ => Or.inl rfl⟩

@[simp] lemma regular_failure (cause : Failure) : (Verdict.failure cause).Regular := trivial

/-- A text with others behind it shows it. -/
lemma infix_intercalate (first : String) (rest : List String) :
    first.toList <:+: ("\n".intercalate (first :: rest)).toList := by
  cases rest with
  | nil => simp
  | cons next rest =>
      rw [String.intercalate_cons_cons, String.toList_append, String.toList_append,
        List.append_assoc]
      exact (List.prefix_append _ _).isInfix

@[simp] lemma regular_gather (failures : List String) :
    (Verdict.reply (.gather failures)).Regular := by
  cases failures with
  | nil => exact regular_ok ""
  | cons first rest =>
      refine ⟨rfl, fun error herror => Or.inr ?_⟩
      obtain rfl : first = error := Option.some_inj.mp herror
      exact infix_intercalate first rest

variable {α : Type} {check : Except Verdict α} {next : α → Except Verdict Verdict}

/-- Checks one after the other: each may end the command. -/
lemma regular_bind (hcheck : ∀ verdict, check = .error verdict → verdict.Regular)
    (hnext : ∀ value, (ofExcept (next value)).Regular) : (ofExcept (check >>= next)).Regular := by
  cases check with
  | error verdict => exact hcheck verdict rfl
  | ok value => exact hnext value

end Verdict

/-- A plan that speaks regularly or performs a script. -/
def Plan.Regular : Plan → Prop
  | .say verdict => verdict.Regular
  | .perform _ => True

namespace Command

open Verdict

/-- A command that ends in regular verdicts only. -/
def Regular (command : Command) : Prop :=
  ∀ call store draws, (command.run call store draws).verdict.Regular

variable {call : Invocation} {store : Store} {verdict : Verdict}

lemma flagsOr_eq_error {allowed : String} (h : flagsOr call allowed = .error verdict) :
    verdict.Regular := by
  simp only [flagsOr] at h
  split at h
  · cases h
  · obtain rfl := Except.error.inj h
    exact regular_failed _

/-- A script that has been performed is a success. -/
lemma regular_tool {plan : Invocation → Store → Plan × List Log.Event}
    (hplan : ∀ call store, (plan call store).1.Regular) : Regular (.tool plan) := by
  intro call store draws
  have hregular := hplan call store
  simp only [run]
  split
  · rename_i verdict events heq
    rw [heq] at hregular
    exact hregular
  · rename_i script events _
    simp only [ToolScript.perform]
    cases hall : Stage.carryOutAll call.now script.effects ⟨store, []⟩ with
    | mk outcome last =>
        cases outcome with
        | ok => exact regular_ok script.output
        | error failure => exact regular_failure failure

/-! ## Looking -/

lemma regular_pwd : Regular pwd := fun _ _ _ => regular_ok _

lemma regular_cd : Regular cd := by
  intro call store draws
  rcases run_cd_cases call store draws with ⟨dir, shown, -, -, hcd⟩ | ⟨complaint, hcd⟩
  · rw [hcd]
    exact regular_ok shown
  · rw [hcd]
    exact regular_failed complaint

/-- What failed comes first in what is shown. -/
lemma regular_ls : Regular ls := by
  intro call store draws
  refine regular_bind (fun verdict => flagsOr_eq_error) fun arguments => ?_
  dsimp only
  split
  · exact regular_ok _
  · rename_i first rest hfailures
    refine ⟨rfl, fun error herror => Or.inr ?_⟩
    obtain rfl : first = error := Option.some_inj.mp herror
    rw [hfailures]
    exact infix_intercalate first _

lemma regular_find : Regular find := by
  intro call store draws
  simp only [find, run]
  split
  · exact regular_failed _
  · split <;> exact regular_ok _

lemma catFiles_eq_error {files : List String} (h : catFiles call store files = .error verdict) :
    verdict.Regular := by
  induction files with
  | nil => simp [catFiles] at h
  | cons file rest ih =>
      simp only [catFiles] at h
      split at h
      · obtain rfl := Except.error.inj h
        exact regular_failed _
      · split_ifs at h
        · obtain rfl := Except.error.inj h
          exact regular_failed _
        · cases hrest : catFiles call store rest with
          | ok text => simp [hrest, bind, Except.bind, pure, Except.pure] at h
          | error later =>
              obtain rfl : later = verdict := by simpa [hrest, bind, Except.bind] using h
              exact ih hrest

lemma regular_cat : Regular cat := by
  intro call store draws
  refine regular_bind (fun verdict => flagsOr_eq_error) fun arguments => ?_
  by_cases hempty : arguments.operands.isEmpty = true
  · simp only [hempty, if_true]
    exact regular_failure _
  · simp only [hempty, Bool.false_eq_true, if_false]
    exact regular_bind (fun verdict => catFiles_eq_error) fun text => regular_ok _

lemma regular_grep : Regular grep := by
  intro call store draws
  refine regular_bind (fun verdict => flagsOr_eq_error) fun arguments => ?_
  dsimp only
  split
  · split
    · exact regular_ok _
    · exact regular_failed _
  · exact regular_failed _

lemma regular_editor : Regular editor := by
  intro call store draws
  simp only [editor, run]
  split
  · exact regular_failed _
  · split
    · exact regular_ok _
    · split_ifs <;> simp

lemma regular_unzip : Regular unzip := by
  intro call store draws
  simp only [unzip, run]
  split
  · exact regular_failed _
  · split <;> simp

/-! ## Editing -/

lemma regular_mkdir : Regular mkdir := by
  intro call store draws
  simp only [mkdir, run]
  split
  · rename_i verdict hflags
    exact flagsOr_eq_error hflags
  · exact regular_failure _
  · exact regular_gather _

lemma regular_touch : Regular touch := by
  intro call store draws
  simp only [touch, run]
  split
  · exact regular_failure _
  · exact regular_gather _

lemma regular_echo : Regular echo := by
  have hinto : ∀ call store file text, (echoInto call store file text).1.Regular := by
    intro call store file text
    simp only [echoInto]
    split <;> simp
  intro call store draws
  simp only [echo, run]
  split
  · exact regular_failed _
  · split
    · exact regular_ok _
    · exact hinto _ _ _ _
    · exact hinto _ _ _ _

lemma regular_rm : Regular rm := by
  intro call store draws
  simp only [rm, run]
  split
  · rename_i verdict hflags
    exact flagsOr_eq_error hflags
  · exact regular_failure _
  · exact regular_gather _

lemma transferOf_eq_error {name : String} {operands : List String}
    (h : transferOf call store name operands = .error verdict) : verdict.Regular := by
  simp only [transferOf] at h
  split at h
  · obtain rfl := Except.error.inj h
    exact regular_failed _
  · obtain rfl := Except.error.inj h
    exact regular_failed _
  · split at h
    · obtain rfl := Except.error.inj h
      exact regular_failed _
    · split_ifs at h
      obtain rfl := Except.error.inj h
      exact regular_failed _
  · obtain rfl := Except.error.inj h
    exact regular_failed _

/-- The operands of `cp` and `mv` are read behind their flags. -/
lemma flagged_transferOf_eq_error {name allowed : String}
    (h : (flagsOr call allowed >>= fun arguments =>
      transferOf call store name arguments.operands) = .error verdict) : verdict.Regular := by
  cases hflags : flagsOr call allowed with
  | error fault =>
      obtain rfl : fault = verdict := by simpa [hflags, bind, Except.bind] using h
      exact flagsOr_eq_error hflags
  | ok arguments =>
      rw [hflags] at h
      exact transferOf_eq_error h

lemma regular_cp : Regular cp := by
  intro call store draws
  simp only [cp, run]
  split
  · rename_i verdict herror
    exact flagged_transferOf_eq_error herror
  · simp only [copyTransfer]
    split
    · exact regular_failed _
    · split <;> simp

lemma regular_mv : Regular mv := by
  intro call store draws
  simp only [mv, run]
  split
  · rename_i verdict herror
    exact flagged_transferOf_eq_error herror
  · simp only [moveTransfer]
    split <;> simp

lemma chmodOperands_eq_error {mode : String} {operands : List String}
    (h : (chmodOperands call mode operands store).1 = .error verdict) : verdict.Regular := by
  induction operands generalizing store with
  | nil => simp [chmodOperands] at h
  | cons operand rest ih =>
      simp only [chmodOperands] at h
      split at h
      · cases hrest : (chmodOperands call mode rest store).1 with
        | ok more => simp [hrest, Except.map] at h
        | error later =>
            obtain rfl : later = verdict := by simpa [hrest, Except.map] using h
            exact ih hrest
      · split at h
        · obtain rfl := Except.error.inj h
          exact regular_failed _
        · split at h
          · obtain rfl := Except.error.inj h
            exact regular_failure _
          · exact ih h

lemma regular_chmod : Regular chmod := by
  intro call store draws
  simp only [chmod, run]
  split
  · exact regular_failure _
  · exact regular_failed _
  · split
    · exact regular_gather _
    · rename_i verdict after hchmod
      exact chmodOperands_eq_error (congrArg Prod.fst hchmod)

/-! ## Running programs -/

lemma regular_python : Regular python := by
  intro call store draws
  simp only [python, run]
  split
  · exact regular_ok _
  · exact regular_ok _
  · exact regular_ok _
  · exact regular_ok _
  · split <;> simp

lemma regular_node : Regular node := by
  intro call store draws
  simp only [node, run]
  split
  · exact regular_ok _
  · exact regular_ok _
  · exact regular_ok _
  · exact regular_ok _
  · exact regular_ok _
  · split <;> simp

lemma regular_java : Regular java := by
  intro call store draws
  simp only [java, run, runClass]
  split
  · split
    · exact regular_failed _
    · split <;> simp
  · split_ifs <;> simp

lemma regular_pip : Regular pip := by
  intro call store draws
  simp only [pip, run, pipInstall]
  split
  case h_4 => split_ifs <;> simp
  all_goals simp

/-! ## The machine and the session -/

lemma regular_uname : Regular uname := by
  intro call store draws
  simp only [uname, run]
  split <;> simp

lemma regular_hostname : Regular hostname := by
  intro call store draws
  simp only [hostname, run]
  split <;> simp

lemma regular_history : Regular history := by
  intro call store draws
  simp only [history, run]
  split
  · exact regular_ok _
  · split <;> simp

/-- The one command that may break off. -/
lemma regular_date : Regular date := by
  have hby : ∀ now pattern, (dateBy now pattern).Regular := by
    intro now pattern
    simp only [dateBy]
    split
    · exact regular_failed _
    · split
      · exact regular_ok _
      · rfl
  intro call store draws
  simp only [date, run]
  split
  · exact hby _ _
  · split
    · exact regular_failed _
    · exact hby _ _

lemma regular_top : Regular top := fun _ _ _ => regular_ok _

lemma regular_ps : Regular ps := by
  intro call store draws
  simp only [ps, run]
  split <;> simp

lemma regular_df : Regular df := by
  intro call store draws
  simp only [df, run]
  split
  · rename_i verdict hflags
    exact flagsOr_eq_error hflags
  · exact regular_ok _

lemma regular_free : Regular free := by
  intro call store draws
  simp only [free, run]
  split
  · rename_i verdict hflags
    exact flagsOr_eq_error hflags
  · exact regular_ok _

lemma regular_scp : Regular scp := by
  intro call store draws
  simp only [scp, run]
  split
  · exact regular_failed _
  · split
    · exact regular_failed _
    · split <;> simp

lemma regular_rsync : Regular rsync := by
  intro call store draws
  simp only [rsync, run]
  split
  · split
    · exact regular_ok _
    · split <;> simp
  · exact regular_failed _

/-! ## Simulated tools -/

lemma regular_planOk (output : String) : (Plan.ok output).Regular := regular_ok output

lemma regular_planFailed (error : String) : (Plan.failed error).Regular := regular_failed error

lemma cloneInto_regular (remote name : String) : (cloneInto call store remote name).1.Regular := by
  simp only [cloneInto]
  split
  · exact regular_planFailed _
  · trivial

lemma gitClone_regular (args : List String) : (gitClone call store args).1.Regular := by
  simp only [gitClone]
  split
  · exact regular_planFailed _
  · split
    · exact cloneInto_regular _ _
    · exact regular_planFailed _
  · exact cloneInto_regular _ _

lemma gitInit_regular (args : List String) : (gitInit call store args).Regular := by
  simp only [gitInit]
  split <;> split
  · exact regular_planOk _
  · trivial
  · exact regular_planOk _
  · trivial

lemma gitCommit_regular (args : List String) : (gitCommit args).Regular := by
  simp only [gitCommit]
  split
  · exact regular_planFailed _
  · exact regular_planOk _

lemma regular_git : Regular git := by
  refine regular_tool fun call store => ?_
  split
  case h_4 => exact gitClone_regular _
  case h_5 => exact gitInit_regular _
  case h_8 => exact gitCommit_regular _
  -- all other subcommands only speak
  all_goals first | exact regular_planOk _ | exact regular_planFailed _

lemma classFile_error_regular {operand : String} {plan : Plan}
    (h : classFile call store operand = .error plan) : plan.Regular := by
  simp only [classFile] at h
  split at h
  · obtain rfl := Except.error.inj h
    exact regular_planFailed _
  · split at h
    · obtain rfl := Except.error.inj h
      exact regular_planFailed _
    · obtain rfl := Except.error.inj h
      trivial
    · simp at h

lemma regular_javac : Regular javac := by
  refine regular_tool fun call store => ?_
  dsimp only
  split
  · exact regular_planFailed _
  · split
    · trivial
    · rename_i plan hall
      obtain ⟨operand, -, hfault⟩ := exists_of_mapM_eq_error hall
      exact classFile_error_regular hfault

lemma regular_gcc : Regular gcc := by
  refine regular_tool fun call store => ?_
  dsimp only
  split
  · exact regular_planOk _
  · exact regular_planFailed _
  · exact regular_planFailed _
  · simp only [buildProgram]
    split
    · exact regular_planFailed _
    · trivial

lemma readManifest_error_regular {plan : Plan} (h : readManifest call store = .error plan) :
    plan.Regular := by
  simp only [readManifest] at h
  split at h
  · obtain rfl := Except.error.inj h
    exact regular_planFailed _
  · rename_i text _
    cases hparse : Json.parse text with
    | ok value => simp [hparse, Except.mapError] at h
    | error fault =>
        obtain rfl : Plan.failed _ = plan := by simpa [hparse, Except.mapError] using h
        exact regular_planFailed _

/-- Whoever reads the manifest speaks of it, or of the failure to read it. -/
lemma manifest_regular {next : Json.Value → Except Plan Plan} {plan : Plan}
    (hnext : ∀ manifest, ∃ spoken, next manifest = .ok spoken ∧ spoken.Regular)
    (h : (readManifest call store >>= next) = .ok plan
      ∨ (readManifest call store >>= next) = .error plan) : plan.Regular := by
  cases hmanifest : readManifest call store with
  | error fault =>
      obtain rfl : fault = plan := by simpa [hmanifest, bind, Except.bind] using h
      exact readManifest_error_regular hmanifest
  | ok manifest =>
      obtain ⟨spoken, hspoken, hregular⟩ := hnext manifest
      obtain rfl : spoken = plan := by simpa [hmanifest, bind, Except.bind, hspoken] using h
      exact hregular

lemma npmRun_regular {script : String} {plan : Plan}
    (h : npmRun call store script = .ok plan ∨ npmRun call store script = .error plan) :
    plan.Regular := by
  refine manifest_regular (fun manifest => ?_) h
  dsimp only
  split
  · exact ⟨_, rfl, regular_planFailed _⟩
  · exact ⟨_, rfl, regular_planOk _⟩

lemma npmScripts_regular {plan : Plan}
    (h : npmScripts call store = .ok plan ∨ npmScripts call store = .error plan) :
    plan.Regular :=
  manifest_regular (fun _ => ⟨_, rfl, regular_planOk _⟩) h

lemma npmPlan_regular {plan : Plan}
    (h : npmPlan call store = .ok plan ∨ npmPlan call store = .error plan) : plan.Regular := by
  simp only [npmPlan] at h
  split at h
  case h_8 | h_9 => exact npmScripts_regular h
  case h_10 | h_11 | h_12 | h_13 => exact npmRun_regular h
  all_goals
    obtain rfl : _ = plan := by simpa using h
    first | trivial | exact regular_planOk _ | exact regular_planFailed _

lemma regular_npm : Regular npm := by
  refine regular_tool fun call store => ?_
  split
  · rename_i plan heq
    exact npmPlan_regular (Or.inl heq)
  · rename_i plan heq
    exact npmPlan_regular (Or.inr heq)

lemma regular_curl : Regular curl := by
  refine regular_tool fun call store => ?_
  dsimp only
  split
  · exact regular_planFailed _
  · split
    · exact regular_planFailed _
    · simp only [curlPlan]
      split
      · exact regular_planOk _
      · split
        · trivial
        · exact regular_planOk _

lemma regular_wget : Regular wget := by
  refine regular_tool fun call store => ?_
  dsimp only
  split
  · trivial
  · split
    · exact regular_planFailed _
    · trivial

lemma regular_ssh : Regular ssh := by
  refine regular_tool fun call store => ?_
  split
  · exact regular_planFailed _
  · exact regular_planFailed _
  · trivial

lemma regular_tar : Regular tar := by
  refine regular_tool fun call store => ?_
  dsimp only
  split
  · dsimp only
    split
    · simp only [tarCreate]
      split
      · exact regular_planFailed _
      · split
        · exact regular_planFailed _
        · trivial
    · split
      · simp only [tarRead]
        split
        · exact regular_planFailed _
        · exact regular_planOk _
      · exact regular_planFailed _
  · exact regular_planFailed _

lemma regular_zip : Regular zip := by
  refine regular_tool fun call store => ?_
  split
  · exact regular_planFailed _
  · exact regular_planFailed _
  · simp only [zipCreate]
    split
    · exact regular_planFailed _
    · trivial

end Command

/-- **Every built-in command ends in a regular verdict.** -/
theorem Registry.regular_builtin : ∀ entry ∈ Registry.builtin, entry.2.Regular := by
  open Command in
  simp only [Registry.builtin, List.forall_mem_cons]
  exact ⟨regular_pwd, regular_cd, regular_ls, regular_find, regular_mkdir, regular_touch,
    regular_cat, regular_echo, regular_rm, regular_cp, regular_mv, regular_chmod, regular_grep,
    regular_git, regular_python, regular_python, regular_node, regular_java, regular_javac,
    regular_gcc, regular_gcc, regular_npm, regular_pip, regular_pip, regular_editor,
    regular_editor, regular_editor, regular_curl, regular_wget, regular_ssh, regular_scp,
    regular_rsync, regular_top, regular_top, regular_ps, regular_df, regular_free, regular_uname,
    fun _ _ _ => Verdict.regular_ok _, regular_hostname, regular_date, regular_tar, regular_zip,
    regular_unzip, fun _ _ _ => Verdict.regular_ok _, fun _ _ _ => Verdict.regular_ok _,
    regular_history, List.forall_mem_nil _⟩

end VirtualShell
