import VirtualShell.Proofs.Effect.Rollback
import VirtualShell.Proofs.Store.Safe

/-!
# Performances keep a store safe, and its nodes in place

A script may be performed on a safe store if its effects are tidy and give permissions that files
may have.  While it is carried out this is one change after the other.  Taking it back is the
delicate part, because a step restores permissions that it has noted: they are those of a file
(`Carried.restores_file`), and where they are given back there is a file or nothing, since no step
turns a directory into a file or a file into a directory.

No node is lost either way.  Effects only write to files and make new nodes (`Carried.retains`), and
a step that removes something removes what an effect has made (`Carried.retains_applyAll`).
-/

namespace VirtualShell

open Time (Instant)

open Store (Edited Retains Safe WellFormed)

variable {now : Instant} {start store : Store} {done : List Effect} {stage : Stage} {path : String}

namespace Undo

/-- Whether the permissions that a step gives back display those of a file and are given to one. -/
def FitsFile (store : Store) : Undo → Prop
  | remove _ => True
  | restore place _ permissions =>
    Displays .file permissions ∧ ∀ node, store.get? place = some node → node.body.kind = .file

variable {step other : Undo} {steps : List Undo}

/-- A step makes no file a directory. -/
lemma fitsFile_apply (hsafe : Safe store) (h : other.FitsFile store) :
    other.FitsFile (step.apply store now).1 := by
  cases other with
  | remove => trivial
  | restore place content permissions =>
      refine ⟨h.1, fun kept hkept => ?_⟩
      have hremoves : ¬ step.Removes place := by
        intro hgone
        rw [get?_apply_of_removes hsafe.tree hgone] at hkept
        simp at hkept
      cases hbefore : store.get? place with
      | none =>
          rw [get?_apply_of_none hbefore] at hkept
          simp at hkept
      | some node =>
          obtain ⟨found, hfound, -, hkind, -⟩ :=
            exists_get?_apply now hsafe.tree hremoves hbefore
          rw [hkept, Option.some_inj] at hfound
          rw [hfound, hkind]
          exact h.2 node hbefore

lemma safe_apply (hsafe : Safe store) (h : step.FitsFile store) :
    Safe (step.apply store now).1 := by
  refine hsafe.of_change (change_apply ?_)
  rintro place content permissions node rfl hget
  rw [h.2 node hget]
  exact h.1

lemma safe_applyAll (hsafe : Safe store) (h : ∀ step ∈ steps, step.FitsFile store) :
    Safe (applyAll now steps store).1 := by
  induction steps generalizing store with
  | nil => exact hsafe
  | cons step rest ih =>
      rw [List.forall_mem_cons] at h
      exact ih (safe_apply hsafe h.1) fun later hlater => fitsFile_apply hsafe (h.2 later hlater)

end Undo

namespace Carried

lemma safe (h : Carried now start done stage) (hstart : Safe start)
    (hallowed : ∀ effect ∈ done, effect.Allowed Displays) : Safe stage.store := by
  induction h with
  | nil => exact hstart
  | snoc before tidy ran ih =>
      rw [List.forall_mem_append, List.forall_mem_singleton] at hallowed
      exact Effect.run_preserves (fun _ _ hbefore hchange => hbefore.of_change hchange) tidy
        hallowed.2 ran (ih hallowed.1)

/-- Every restoration on the stack is one of a file that is there. -/
lemma restores_file {content permissions : String} (h : Carried now start done stage)
    (hstart : Safe start) (hallowed : ∀ effect ∈ done, effect.Allowed Displays)
    (hmem : .restore path content permissions ∈ stage.undo) :
    Displays .file permissions
      ∧ ∃ node, stage.store.get? path = some node ∧ node.body.kind = .file := by
  induction h with
  | nil => simp at hmem
  | @snoc done stage effect after before tidy ran ih =>
      rw [List.forall_mem_append, List.forall_mem_singleton] at hallowed
      by_cases hwrite : ∃ text shown, effect = .write path text shown
      · obtain ⟨text, shown, rfl⟩ := hwrite
        obtain ⟨-, last, hlast, hbody, hkept⟩ := Effect.get?_run_write tidy ran
        refine ⟨?_, last, hlast, Body.kind_eq_file_iff.mpr ⟨text, hbody⟩⟩
        rcases List.mem_append.mp hmem with hnew | hearlier
        · rw [Effect.wayBack, List.mem_singleton] at hnew
          cases hold : stage.store.get? path with
          | none => simp [undoWrite_of_none hold] at hnew
          | some old =>
              obtain ⟨⟨first, hfirst⟩, -⟩ := hkept old hold
              rw [undoWrite_of_file hold hfirst, Undo.restore.injEq] at hnew
              have hdisplays := (before.safe hstart hallowed.1).displays_of_get? hold
              rw [hfirst] at hdisplays
              exact hnew.2.2 ▸ hdisplays
        · exact (ih hallowed.1 hearlier).1
      · have hearlier : .restore path content permissions ∈ stage.undo :=
          (List.mem_append.mp hmem).resolve_left fun hnew =>
            hwrite (write_of_restores_wayBack hnew rfl)
        obtain ⟨hdisplays, node, hnode, hkind⟩ := ih hallowed.1 hearlier
        obtain ⟨kept, hkept, hsame⟩ := get?_run_of_not_write tidy ran hnode
          fun text shown heq => hwrite ⟨text, shown, heq⟩
        obtain ⟨-, -, -, hbody, -⟩ := Node.timeless_eq_iff.mp hsame
        exact ⟨hdisplays, kept, hkept, hbody ▸ hkind⟩

/-- Effects that are carried out write to files and make new nodes, and no more. -/
lemma retains (h : Carried now start done stage) : Retains start stage.store := by
  intro path old hold
  rcases h.spared_or_overwritten hold with hspared | hover
  · obtain ⟨node, hnode, hsame⟩ := hspared.found
    obtain ⟨hid, -, -, hbody, -, -, hcreated⟩ := Node.timeless_eq_iff.mp hsame
    exact ⟨node, hnode, hid, congrArg Body.kind hbody, hcreated⟩
  · obtain ⟨node, content, hnode, hbody, -, hid, hcreated⟩ := hover.found
    obtain ⟨text, -, -, htext, -⟩ := hover.restored
    refine ⟨node, hnode, hid, ?_, hcreated⟩
    rw [Node.kind, Node.kind, hbody, htext]
    rfl

/-- Nor is a node lost when they are taken back: only what they have made is removed. -/
lemma retains_applyAll (h : Carried now start done stage) (hwell : WellFormed start) :
    Retains start (Undo.applyAll now stage.undo stage.store).1 := by
  intro path old hold
  obtain ⟨node, hnode, hid, hkind, hcreated⟩ := h.retains path old hold
  obtain ⟨kept, hkept, hid', hkind', hcreated'⟩ :=
    Undo.exists_get?_applyAll now (h.wellFormed hwell) (h.not_removes hwell hold) hnode
  exact ⟨kept, hkept, hid'.trans hid, hkind'.trans hkind, hcreated'.trans hcreated⟩

end Carried

namespace ToolScript

/-- A script whose effects may be carried out and taken back on any safe store. -/
def Proper (script : ToolScript) : Prop :=
  ∀ effect ∈ script.effects, effect.Tidy ∧ effect.Allowed Displays

variable {script : ToolScript}

/-- What a performance leaves is the store of its last stage, or that store with everything taken
back. -/
lemma perform_store (store : Store) (now : Instant)
    (htidy : ∀ effect ∈ script.effects, effect.Tidy) :
    ∃ done last, Carried now store done last ∧ (∀ effect ∈ done, effect ∈ script.effects)
      ∧ ((script.perform store now).2.1 = last.store
        ∨ (script.perform store now).2.1 = (Undo.applyAll now last.undo last.store).1) := by
  cases h : (script.perform store now).1 with
  | error failure =>
      obtain ⟨failing, rest, last, heffects, hcarried, -, hafter⟩ := perform_eq_error htidy h
      exact ⟨_, last, hcarried,
        fun effect heffect => heffects ▸ List.mem_append_left _ heffect, Or.inr hafter⟩
  | ok reply =>
      simp only [perform] at h ⊢
      cases hall : Stage.carryOutAll now script.effects ⟨store, []⟩ with
      | mk outcome last =>
          cases outcome with
          | error failure =>
              rw [hall] at h
              simp at h
          | ok =>
              exact ⟨_, last, carryOutAll_eq_ok htidy .nil hall, fun _ heffect => heffect,
                Or.inl rfl⟩

/-- **A performance keeps a store safe and all its nodes in place**, whether it succeeds or is taken
back. -/
theorem perform_edited (hsafe : Safe store) (hproper : script.Proper) :
    Edited store (script.perform store now).2.1 := by
  obtain ⟨done, last, hcarried, hdone, hafter⟩ :=
    perform_store store now fun effect heffect => (hproper effect heffect).1
  have hallowed : ∀ effect ∈ done, effect.Allowed Displays :=
    fun effect heffect => (hproper effect (hdone effect heffect)).2
  rcases hafter with hafter | hafter
  · rw [hafter]
    exact ⟨hcarried.safe hsafe hallowed, hcarried.retains⟩
  · rw [hafter]
    refine ⟨Undo.safe_applyAll (hcarried.safe hsafe hallowed) fun step hstep => ?_,
      hcarried.retains_applyAll hsafe.tree⟩
    cases step with
    | remove => trivial
    | restore place content permissions =>
        obtain ⟨hdisplays, node, hnode, hkind⟩ := hcarried.restores_file hsafe hallowed hstep
        refine ⟨hdisplays, fun found hfound => ?_⟩
        rw [hnode, Option.some_inj] at hfound
        exact hfound ▸ hkind

end ToolScript

end VirtualShell
