import VirtualShell.Proofs.Command.Files
import VirtualShell.Proofs.Mode.Bits

/-!
# What a change of mode leaves

`chmod` reads its mode anew at each operand, so a mode that is none comes to light only when some
operands have been dealt with.  Yet nothing is left half done.  Whether a mode is one does not
depend on the node (`Mode.refused_or_settles`): a mode that is none is refused at the first operand
that is there, before anything has changed, and any other is never refused.

An operand that is named twice is changed twice, which comes to the same as once.
-/

namespace VirtualShell

variable {mode : String}

/-! ## Modes and nodes -/

namespace Mode

/-- A text that is a mode for no node. -/
def Refused (mode : String) : Prop :=
  ∀ current isDirectory, changedPermissions? current isDirectory mode = none

/-- A text that is a mode for every node, and changes nothing the second time. -/
def Settles (mode : String) : Prop :=
  ∀ current isDirectory, ∃ once, changedPermissions? current isDirectory mode = some once
    ∧ changedPermissions? once isDirectory mode = some once

/-- A text is a mode for all nodes or for none, because it is read apart from them. -/
theorem refused_or_settles (mode : String) :
    parse? mode = none ∧ Refused mode ∨ (∃ change, parse? mode = some change) ∧ Settles mode := by
  cases hmode : parse? mode with
  | none => exact Or.inl ⟨rfl, fun current isDirectory => by rw [changedPermissions?, hmode]; rfl⟩
  | some change =>
      refine Or.inr ⟨⟨change, rfl⟩, fun current isDirectory => ?_⟩
      have honce : changedPermissions? current isDirectory mode
          = some ((change.apply (.ofText current)).text isDirectory) := by
        rw [changedPermissions?, hmode]
        rfl
      exact ⟨_, honce, changedPermissions?_changed honce⟩

end Mode

/-- A node after a mode. -/
def Node.changedBy (now : Time.Instant) (change : Mode) (node : Node) : Node :=
  { node with
    permissions := (change.apply (.ofText node.permissions)).text node.isDirectory
    updated := now }

lemma Node.changedBy_changedBy (now : Time.Instant) (change : Mode) (node : Node) :
    (node.changedBy now change).changedBy now change = node.changedBy now change := by
  have hkind : (node.changedBy now change).isDirectory = node.isDirectory := rfl
  rw [changedBy, hkind]
  simp only [changedBy, Permissions.ofText_text, Mode.apply_apply]

namespace Command

variable {call : Invocation} {store : Store} {change : Mode}

/-! ## Operands -/

/-- A mode that is none changes nothing: there is a verdict at the first operand that is there, and
complaints about all operands if none is. -/
lemma chmodOperands_of_refused (call : Invocation) (store : Store) (hmode : Mode.Refused mode)
    (operands : List String) :
    (chmodOperands call mode operands store).2 = store
      ∧ ((chmodOperands call mode operands store).1
            = .error (.failed ("chmod: invalid mode: " ++ quoted mode))
        ∨ ∃ complaints, (chmodOperands call mode operands store).1 = .ok complaints
          ∧ complaints.length = operands.length) := by
  induction operands with
  | nil => exact ⟨rfl, Or.inr ⟨[], rfl, rfl⟩⟩
  | cons operand rest ih =>
      simp only [chmodOperands]
      cases store.get? (call.resolve operand) with
      | some node => simp [hmode node.permissions node.isDirectory]
      | none =>
          obtain ⟨hsame, hrest⟩ := ih
          refine ⟨hsame, hrest.imp (fun hrefused => ?_) ?_⟩
          · simp only [hrefused, Except.map]
          · rintro ⟨complaints, hcomplaints, hlength⟩
            exact ⟨_, by simp only [hcomplaints, Except.map]; rfl, by simp [hlength]⟩

/-- Any other mode is worked off to the end.  There is a complaint only about what is not there; by
induction on the operands, in the store that those before have left. -/
lemma chmodOperands_of_mode (call : Invocation) (store : Store)
    (hmode : Mode.parse? mode = some change) (operands : List String) :
    ∃ complaints after, chmodOperands call mode operands store = (.ok complaints, after)
      ∧ (complaints = [] ↔ ∀ operand ∈ operands, store.contains (call.resolve operand) = true)
      ∧ ∀ path, after.get? path =
          if path ∈ operands.map call.resolve then
            (store.get? path).map (·.changedBy call.now change)
          else store.get? path := by
  induction operands generalizing store with
  | nil => exact ⟨[], store, rfl, by simp, by simp⟩
  | cons operand rest ih =>
      simp only [chmodOperands]
      cases hget : store.get? (call.resolve operand) with
      | none =>
          obtain ⟨complaints, after, hrun, -, hafter⟩ := ih store
          refine ⟨_, after, by rw [hrun]; rfl, by simp [Store.contains, hget], fun path => ?_⟩
          rw [hafter]
          by_cases hpath : path = call.resolve operand
          · simp [hpath, hget]
          · simp [hpath]
      | some node =>
          have hchanged : changedPermissions? node.permissions node.isDirectory mode
              = some (node.changedBy call.now change).permissions := by
            rw [changedPermissions?, hmode]
            rfl
          have hplace : node.path = call.resolve operand := Store.path_of_get? hget
          simp only [hchanged, Store.update_permissions hget]
          obtain ⟨complaints, after, hrun, hnone, hafter⟩ :=
            ih (store.replace (node.changedBy call.now change))
          have hself : (store.replace (node.changedBy call.now change)).get? (call.resolve operand)
              = some (node.changedBy call.now change) := Store.get?_replace_self hplace hget
          have hother : ∀ path, path ≠ call.resolve operand →
              (store.replace (node.changedBy call.now change)).get? path = store.get? path :=
            fun path hne => Store.get?_replace_of_ne (hplace ▸ hne)
          refine ⟨complaints, after, hrun, ?_, fun path => ?_⟩
          · rw [hnone, List.forall_mem_cons]
            have hthere : ∀ path, (store.replace (node.changedBy call.now change)).contains path
                = store.contains path := by
              intro path
              by_cases hpath : path = call.resolve operand
              · simp [Store.contains, hpath, hself, hget]
              · simp [Store.contains, hother path hpath]
            simp only [hthere]
            simp [Store.contains, hget]
          · rw [hafter]
            by_cases hpath : path = call.resolve operand
            · simp [hpath, hself, hget, Node.changedBy_changedBy]
            · simp [hpath, hother path hpath]

/-! ## The command -/

/-- What a mode leaves of a namespace where some places are named: each node at such a place has its
new permissions and is otherwise the same, and all else is as it was. -/
structure Changed (mode : String) (places : List String) (now : Time.Instant)
    (before after : Store) : Prop where
  named : ∀ path ∈ places, ∀ node, before.get? path = some node →
    ∃ permissions, changedPermissions? node.permissions node.isDirectory mode = some permissions
      ∧ after.get? path = some { node with permissions := permissions, updated := now }
  missing : ∀ path ∈ places, before.get? path = none → after.get? path = none
  elsewhere : ∀ path, path ∉ places → after.get? path = before.get? path

/-- **The effect of `chmod`.**  It fails and leaves the store alone, or changes all operands that
are there; then it succeeds if there are operands and all of them are there. -/
theorem chmod_changed (store : Store) (name : String) (draws : Draws) {operands : List String}
    (hargs : call.args = mode :: operands) :
    (Mode.Refused mode ∧ ((chmod.run call store draws).verdict.toReply name).success = false
        ∧ (chmod.run call store draws).store = store)
      ∨ (Mode.Settles mode
        ∧ Changed mode (operands.map call.resolve) call.now store (chmod.run call store draws).store
        ∧ (((chmod.run call store draws).verdict.toReply name).success = true
          ↔ operands ≠ [] ∧ ∀ path ∈ operands.map call.resolve, store.contains path = true)) := by
  cases operands with
  | nil =>
      have hrun : chmod.run call store draws
          = ⟨.failed ("chmod: missing operand after " ++ quoted mode), call.session, store, draws,
              []⟩ := by
        simp [chmod, run, hargs]
      rw [hrun]
      exact (Mode.refused_or_settles mode).imp (fun h => ⟨h.2, rfl, rfl⟩)
        fun h => ⟨h.2, ⟨by simp, by simp, fun _ _ => rfl⟩, by simp [Verdict.failed, Verdict.toReply,
          Reply.failed]⟩
  | cons operand rest =>
      rcases Mode.refused_or_settles mode with ⟨-, hrefused⟩ | ⟨⟨change, hmode⟩, hsettles⟩
      · obtain ⟨hstore, hverdict⟩ :=
          chmodOperands_of_refused call store hrefused (operand :: rest)
        refine Or.inl ⟨hrefused, ?_⟩
        simp only [chmod, run, hargs]
        cases hrun : chmodOperands call mode (operand :: rest) store with
        | mk outcome after =>
            rw [hrun] at hstore hverdict
            rcases hverdict with rfl | ⟨complaints, rfl, hlength⟩
            · exact ⟨rfl, hstore⟩
            · obtain ⟨first, more, rfl⟩ := List.exists_cons_of_length_eq_add_one hlength
              exact ⟨rfl, hstore⟩
      · obtain ⟨complaints, after, hrun, hnone, hafter⟩ :=
          chmodOperands_of_mode call store hmode (operand :: rest)
        refine Or.inr ⟨hsettles, ?_⟩
        simp only [chmod, run, hargs, hrun]
        refine ⟨⟨fun path hpath node hget => ⟨(node.changedBy call.now change).permissions, ?_, ?_⟩,
          fun path hpath hget => ?_, fun path hpath => ?_⟩, ?_⟩
        · rw [changedPermissions?, hmode]
          rfl
        · rw [hafter, if_pos hpath, hget]
          rfl
        · rw [hafter, if_pos hpath, hget]
          rfl
        · rw [hafter, if_neg hpath]
        · rw [List.forall_mem_map, ← hnone]
          cases complaints <;> simp [Verdict.toReply, Reply.gather, Reply.ok]

end Command

end VirtualShell
