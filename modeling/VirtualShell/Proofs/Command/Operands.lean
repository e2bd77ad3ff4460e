import Mathlib.Data.List.Basic
import VirtualShell.Command.Files
import VirtualShell.Proofs.Store.Run
import VirtualShell.Shell.Interpreter

/-!
# Operands one by one

`mkdir`, `touch` and `rm` attempt each operand on the namespace as the one before left it, go on
where one fails, and gather the complaints.  What they share is stated once (`Treats`): the command
goes through its operands with an action that sees the session, the clock and the flags, and no
other operand.

So an operand list may be cut in two (`operands_independent`).  Two calls in the same directory
leave what one call with all operands leaves, and its reply is read off theirs: it succeeds if both
do, shows what either shows, and names the error that came first.  Operands still meet in the
namespace, where a directory made for one is there for the next; that is the same in both ways.
-/

namespace VirtualShell

open Time (Instant)

/-! ## Complaints -/

namespace Reply

variable {front back : List String}

@[simp] lemma success_gather (complaints : List String) :
    (gather complaints).success = complaints.isEmpty := by
  cases complaints <;> rfl

@[simp] lemma error_gather (complaints : List String) :
    (gather complaints).error = complaints.head? := by
  cases complaints <;> rfl

@[simp] lemma output_gather (complaints : List String) :
    (gather complaints).output = "\n".intercalate complaints := by
  cases complaints <;> simp [gather, ok]

/-- Complaints are never empty, so nothing is shown only where nothing went wrong. -/
lemma intercalate_eq_empty_iff (h : "" ∉ front) : "\n".intercalate front = "" ↔ front = [] := by
  cases front with
  | nil => simp
  | cons first rest =>
      have hfirst : first ≠ "" := fun hempty => h (by simp [hempty])
      cases rest <;> simp [String.intercalate_cons_cons, hfirst]

/-- What is gathered from two lists of complaints is read off what is gathered from each. -/
lemma gather_append (hfront : "" ∉ front) (hback : "" ∉ back) :
    ((gather (front ++ back)).success = true
        ↔ (gather front).success = true ∧ (gather back).success = true)
      ∧ (gather (front ++ back)).output
        = "\n".intercalate ([(gather front).output, (gather back).output].filter (· ≠ ""))
      ∧ (gather (front ++ back)).error
        = if (gather front).success then (gather back).error else (gather front).error := by
  by_cases hnone : front = []
  · subst hnone
    by_cases hall : back = [] <;> simp [intercalate_eq_empty_iff hback, hall]
  · have hhead : (front ++ back).head? = front.head? := List.head?_append_of_ne_nil _ hnone
    by_cases hall : back = []
    · simp [intercalate_eq_empty_iff hfront, hnone, hall]
    · simp [intercalate_eq_empty_iff hfront, intercalate_eq_empty_iff hback, hnone, hall, hhead,
        String.intercalate_append_of_ne_nil hnone hall, String.intercalate_cons_cons]

end Reply

namespace Command

variable {command : Command} {read : List String → Option Arguments}
  {act : Store → String → Option String × Store} {call : Invocation} {store : Store}

/-! ## Going through the operands -/

lemma forEachOperand_append (front back : List String) (store : Store) :
    forEachOperand act (front ++ back) store
      = ((forEachOperand act front store).1
            ++ (forEachOperand act back (forEachOperand act front store).2).1,
          (forEachOperand act back (forEachOperand act front store).2).2) := by
  induction front generalizing store with
  | nil => rfl
  | cons operand rest ih => simp [forEachOperand, ih, List.append_assoc]

/-- Every complaint is one about an operand. -/
lemma not_mem_forEachOperand {text : String}
    (hact : ∀ store operand, (act store operand).1 ≠ some text)
    (operands : List String) (store : Store) : text ∉ (forEachOperand act operands store).1 := by
  induction operands generalizing store with
  | nil => simp [forEachOperand]
  | cons operand rest ih =>
      rw [forEachOperand, List.mem_append, Option.mem_toList, not_or]
      exact ⟨hact store operand, ih _⟩

/-! ## Three commands -/

/-- The commands that treat their operands one by one, each with how it reads its arguments. -/
inductive OneByOne : Command → (List String → Option Arguments) → Prop where
  | mkdir : OneByOne mkdir fun args => (splitFlags "p" args).toOption
  | touch : OneByOne touch fun args => some ⟨[], args.filter fun arg => !Text.startsWith "-" arg⟩
  | rm : OneByOne rm fun args => (splitFlags "rRf" args).toOption

/-- A command goes through its operands with an action. -/
structure Treats (command : Command) (read : List String → Option Arguments)
    (act : Invocation → List Char → Store → String → Option String × Store) : Prop where
  run : ∀ call store draws flags operands, read call.args = some ⟨flags, operands⟩ →
    operands ≠ [] →
      command.run call store draws
        = ⟨.reply (.gather (forEachOperand (act call flags) operands store).1), call.session,
            (forEachOperand (act call flags) operands store).2, draws, []⟩
  /-- The action does not see the other arguments. -/
  args : ∀ call args, act { call with args := args } = act call
  /-- The order of the flags is of no matter to it, nor how often one is given. -/
  flags : ∀ call flags others, (∀ c, c ∈ others ↔ c ∈ flags) → act call others = act call flags
  speaks : ∀ call flags store operand, (act call flags store operand).1 ≠ some ""

lemma flagsOr_eq_ok {allowed : String} {arguments : Arguments}
    (h : (splitFlags allowed call.args).toOption = some arguments) :
    flagsOr call allowed = .ok arguments := by
  cases hsplit : splitFlags allowed call.args with
  | error c => simp [hsplit, Except.toOption] at h
  | ok found =>
      obtain rfl : found = arguments := by simpa [hsplit, Except.toOption] using h
      simp [flagsOr, hsplit]

lemma contains_congr {flags others : List Char} (h : ∀ c, c ∈ others ↔ c ∈ flags) (c : Char) :
    others.contains c = flags.contains c := by
  rw [Bool.eq_iff_iff, List.contains_iff_mem, List.contains_iff_mem]
  exact h c

lemma treats_mkdir :
    Treats mkdir (fun args => (splitFlags "p" args).toOption)
      (fun call flags => mkdirOperand call (flags.contains 'p')) where
  run call store draws flags operands hread hoperands := by
    obtain ⟨operand, rest, rfl⟩ := List.exists_cons_of_ne_nil hoperands
    simp [mkdir, Command.run, flagsOr_eq_ok hread, gathered]
  args call args := rfl
  flags call flags others h := by rw [contains_congr h]
  speaks call flags store operand := by
    simp only [mkdirOperand]
    split
    · simp
    · simp [String.append_assoc]

lemma treats_touch :
    Treats touch (fun args => some ⟨[], args.filter fun arg => !Text.startsWith "-" arg⟩)
      (fun call _ => touchOperand call) where
  run call store draws flags operands hread hoperands := by
    obtain ⟨rfl, rfl⟩ : [] = flags ∧ _ = operands := by simpa using hread
    obtain ⟨operand, rest, hrest⟩ := List.exists_cons_of_ne_nil hoperands
    simp [touch, Command.run, hrest, gathered]
  args call args := rfl
  flags call flags others h := rfl
  speaks call flags store operand := by
    simp only [touchOperand]
    split
    · simp
    · simp [String.append_assoc]

lemma treats_rm :
    Treats rm (fun args => (splitFlags "rRf" args).toOption)
      (fun call flags => rmOperand call (flags.contains 'f')) where
  run call store draws flags operands hread hoperands := by
    obtain ⟨operand, rest, rfl⟩ := List.exists_cons_of_ne_nil hoperands
    simp [rm, Command.run, flagsOr_eq_ok hread, gathered]
  args call args := by
    funext flags store operand
    have hpath : Invocation.resolve { call with args := args } operand = call.resolve operand := rfl
    simp only [rmOperand]
    rw [hpath]
  flags call flags others h := by rw [contains_congr h]
  speaks call flags store operand := by
    simp only [rmOperand]
    split_ifs
    · simp
    · cases store.delete (call.resolve operand) <;> simp
    · cases store.delete (call.resolve operand) <;> simp [String.append_assoc]

lemma OneByOne.exists_treats (h : OneByOne command read) : ∃ act, Treats command read act := by
  cases h with
  | mkdir => exact ⟨_, treats_mkdir⟩
  | touch => exact ⟨_, treats_touch⟩
  | rm => exact ⟨_, treats_rm⟩

/-- **Operands are independent.**  Of `mkdir`, `touch` and `rm`, with flags or without, whatever is
in the namespace: a call with two lists of operands leaves what two calls leave, one behind the
other in the same directory at the same time, of which each has one of the lists and the same flags.
It succeeds exactly if both do, shows what they show and names the error that came first. -/
theorem operands_independent (hcommand : OneByOne command read) (call : Invocation) (store : Store)
    (draws : Draws) {first second whole front back : List String} {flags others both : List Char}
    (hfirst : read first = some ⟨flags, front⟩) (hsecond : read second = some ⟨others, back⟩)
    (hwhole : read whole = some ⟨both, front ++ back⟩) (hothers : ∀ c, c ∈ others ↔ c ∈ flags)
    (hboth : ∀ c, c ∈ both ↔ c ∈ flags) (hfront : front ≠ []) (hback : back ≠ []) :
    ∃ reply later joint middle after,
      command.run { call with args := first } store draws
        = ⟨.reply reply, call.session, middle, draws, []⟩
      ∧ command.run { call with args := second } middle draws
        = ⟨.reply later, call.session, after, draws, []⟩
      ∧ command.run { call with args := whole } store draws
        = ⟨.reply joint, call.session, after, draws, []⟩
      ∧ (joint.success = true ↔ reply.success = true ∧ later.success = true)
      ∧ joint.output = "\n".intercalate ([reply.output, later.output].filter (· ≠ ""))
      ∧ joint.error = if reply.success then later.error else reply.error := by
  obtain ⟨act, hact⟩ := hcommand.exists_treats
  have hjoint : front ++ back ≠ [] := by simp [hfront]
  have hrun := hact.run { call with args := first } store draws flags front hfirst hfront
  have hlater := hact.run { call with args := second }
    (forEachOperand (act call flags) front store).2 draws others back hsecond hback
  have hall := hact.run { call with args := whole } store draws both (front ++ back) hwhole hjoint
  rw [hact.args call first] at hrun
  rw [hact.args call second, hact.flags call flags others hothers] at hlater
  rw [hact.args call whole, hact.flags call flags both hboth, forEachOperand_append] at hall
  have hspeaks := fun operands store =>
    not_mem_forEachOperand (hact.speaks call flags) operands store
  exact ⟨_, _, _, _, _, hrun, hlater, hall,
    Reply.gather_append (hspeaks front store) (hspeaks back _)⟩

/-- The flag stands in another place each time, the second list needs what the first has made, and
its last operand leads through a file. -/
theorem operands_independent_of_parents :
    ∃ (call : Invocation) (reply later joint : Reply) (middle after : Store),
      mkdir.run { call with args := ["-p", "a/b"] } (.new {} ⟨0, 0⟩) []
        = ⟨.reply reply, call.session, middle, [], []⟩
      ∧ mkdir.run { call with args := ["a/b/c", "-pp", ".bashrc/d"] } middle []
        = ⟨.reply later, call.session, after, [], []⟩
      ∧ mkdir.run { call with args := ["a/b", "-p", "a/b/c", ".bashrc/d"] } (.new {} ⟨0, 0⟩) []
        = ⟨.reply joint, call.session, after, [], []⟩
      ∧ after.isDirectory "/home/user/a/b/c" = true ∧ reply = .ok ""
      ∧ joint = .gather ["mkdir: cannot create directory '.bashrc/d': File exists"] := by
  obtain ⟨call, hcall⟩ :
      ∃ call : Invocation, call = ⟨"mkdir", [], {}, "simsh", {}, .plain, ⟨1, 0⟩⟩ :=
    ⟨_, rfl⟩
  have hfirst : (splitFlags "p" ["-p", "a/b"]).toOption = some ⟨['p'], ["a/b"]⟩ := by decide
  have hsecond : (splitFlags "p" ["a/b/c", "-pp", ".bashrc/d"]).toOption
      = some ⟨['p', 'p'], ["a/b/c", ".bashrc/d"]⟩ := by decide
  have hwhole : (splitFlags "p" ["a/b", "-p", "a/b/c", ".bashrc/d"]).toOption
      = some ⟨['p'], ["a/b"] ++ ["a/b/c", ".bashrc/d"]⟩ := by decide
  obtain ⟨reply, later, joint, middle, after, hrun, hlater, hall, hsuccess, houtput, herror⟩ :=
    operands_independent .mkdir call (.new {} ⟨0, 0⟩) [] hfirst hsecond hwhole (by simp)
      (fun _ => Iff.rfl) (by simp) (by simp)
  -- what the two calls answer is computed, and what the joint call answers follows
  have hmiddle : (mkdir.run { call with args := ["-p", "a/b"] } (.new {} ⟨0, 0⟩) []).store
      = middle := congrArg Ran.store hrun
  have hanswers : ((mkdir.run { call with args := ["-p", "a/b"] } (.new {} ⟨0, 0⟩)
        []).verdict.toReply "mkdir",
      (mkdir.run { call with args := ["a/b/c", "-pp", ".bashrc/d"] } middle
        []).verdict.toReply "mkdir",
      (mkdir.run { call with args := ["a/b/c", "-pp", ".bashrc/d"] } middle
        []).store.isDirectory "/home/user/a/b/c")
      = (.ok "", .gather ["mkdir: cannot create directory '.bashrc/d': File exists"], true) := by
    rw [← hmiddle, hcall]
    decide +kernel
  rw [hrun, hlater] at hanswers
  simp only [Verdict.toReply, Prod.mk.injEq] at hanswers
  obtain ⟨rfl, rfl, hthere⟩ := hanswers
  refine ⟨call, _, _, joint, middle, after, hrun, hlater, hall, hthere, rfl, ?_⟩
  have hfailed : joint.success = false := by
    rw [← Bool.not_eq_true, hsuccess]
    simp
  simp only [Reply.ok, if_true] at herror
  rw [← show (⟨joint.output, joint.error, joint.success⟩ : Reply) = joint from rfl, houtput, herror,
    hfailed]
  decide

end Command

end VirtualShell
