import VirtualShell.Proofs.Effect.Run
import VirtualShell.Proofs.Store.Run

/-!
# Performances that break off

When an effect fails, the effects before it have been carried out and the stack of their ways back
is worked off.  `Carried` is a store in the middle of this with its stack, and the stack is
described one path at a time:

* a path that was free at the start is free in the end exactly if a step removes it or something
  above it, and such a step is there exactly if the first effect to act at that place spelled it in
  normal form (`Carried.removes_iff`);
* a path that was occupied keeps its node, and if the node is a file that has been overwritten, the
  step that restores its first text comes last (`Carried.spared_or_overwritten`).

**When nothing remains.**  `Carried.traceless_iff` puts the two together: everything is as before
exactly if the effects were `Recoverable`.  Two things are not: a directory that was spelled
carelessly and does not lie in one that goes anyway, and a file that was too large to be written
again.  With normal paths and files that fit neither happens, which is `rollback_perform`.
-/

namespace VirtualShell

open Time (Instant)

open VirtualShell.Path (IsNormal)

open Store (WellFormed Traceless)

/-- A performance up to some effect: what has been carried out, and the stage that this has led
to. -/
inductive Carried (now : Instant) (start : Store) : List Effect → Stage → Prop where
  | nil : Carried now start [] ⟨start, []⟩
  | snoc {done : List Effect} {stage : Stage} {effect : Effect} {after : Store}
      (before : Carried now start done stage) (tidy : effect.Tidy)
      (ran : effect.run stage.store now = .ok after) :
      Carried now start (done ++ [effect]) ⟨after, effect.wayBack stage.store ++ stage.undo⟩

/-- Whether effects can be taken back without a trace from a store on which they were carried
out. -/
structure Recoverable (start : Store) (done : List Effect) : Prop where
  /-- Every file that was overwritten is small enough to be written again. -/
  overwritten : ∀ path content permissions, Effect.write path content permissions ∈ done →
    ∀ old text, start.get? path = some old → old.body = .file text →
      text.utf8ByteSize ≤ start.limits.fileSize
  /-- Every new node lies at or below a new one which the first effect at its place spelled in
  normal form. -/
  made : ∀ effect ∈ done, start.get? effect.place = none →
    ∃ top, start.get? top = none
      ∧ (effect.place = top ∨ Path.isBelow effect.place top = true)
      ∧ (done.find? fun other => other.place = top).map Effect.path = some top

variable {now : Instant} {start store after : Store} {done : List Effect} {stage : Stage}
  {effect : Effect} {path top : String} {old : Node}

/-! ## The way back -/

lemma undoWrite_of_file {text : String} (h : store.get? path = some old)
    (hbody : old.body = .file text) :
    Stage.undoWrite store path = .restore path text old.permissions := by
  simp [Stage.undoWrite, h, hbody]

lemma undoWrite_of_none (h : store.get? path = none) :
    Stage.undoWrite store path = .remove path := by
  simp [Stage.undoWrite, h]

/-- The way back removes what was not there under the path as it is spelled. -/
lemma remove_mem_wayBack_iff (htidy : effect.Tidy) (hrun : effect.run store now = .ok after) :
    .remove top ∈ effect.wayBack store ↔ effect.path = top ∧ store.get? top = none := by
  cases effect with
  | makeDirectory path =>
      by_cases hthere : store.contains path = true
      · have hsome : store.get? path ≠ none := by
          obtain ⟨node, hget⟩ := Store.contains_eq_true_iff.mp hthere
          simp [hget]
        simp only [Effect.wayBack, if_pos hthere, List.not_mem_nil, Effect.path, false_iff,
          not_and]
        rintro rfl
        exact hsome
      · have hnone : store.get? path = none := by
          simpa [Store.contains_eq_false_iff] using hthere
        simp only [Effect.wayBack, if_neg hthere, List.mem_singleton, Undo.remove.injEq,
          Effect.path]
        constructor
        · rintro rfl
          exact ⟨rfl, hnone⟩
        · exact fun h => h.1.symm
  | write path content permissions =>
      simp only [Effect.wayBack, List.mem_singleton, Effect.path]
      cases hget : store.get? path with
      | none =>
          rw [undoWrite_of_none hget, Undo.remove.injEq]
          constructor
          · rintro rfl
            exact ⟨rfl, hget⟩
          · exact fun h => h.1.symm
      | some old =>
          obtain ⟨-, node, -, -, hold⟩ := Effect.get?_run_write htidy hrun
          obtain ⟨⟨text, hbody⟩, -⟩ := hold old hget
          rw [undoWrite_of_file hget hbody]
          simp only [reduceCtorEq, false_iff, not_and]
          rintro rfl
          simp [hget]

/-- The way back restores a path only if the effect has written there. -/
lemma write_of_restores_wayBack {step : Undo} (hstep : step ∈ effect.wayBack store)
    (hrestores : step.Restores path) :
    ∃ content permissions, effect = .write path content permissions := by
  cases effect with
  | makeDirectory place =>
      simp only [Effect.wayBack] at hstep
      split_ifs at hstep
      · simp at hstep
      · rw [List.mem_singleton.mp hstep] at hrestores
        exact hrestores.elim
  | write place content permissions =>
      rw [Effect.wayBack, List.mem_singleton] at hstep
      suffices hplace : place = path from ⟨content, permissions, by rw [hplace]⟩
      simp only [Stage.undoWrite] at hstep
      split at hstep
      · rw [hstep] at hrestores
        exact hrestores.elim
      · split at hstep
        · rw [hstep] at hrestores
          exact hrestores
        · rw [hstep] at hrestores
          exact hrestores.elim

namespace Carried

/-! ## The stage -/

lemma wellFormed (h : Carried now start done stage) (hwell : WellFormed start) :
    WellFormed stage.store := by
  induction h with
  | nil => exact hwell
  | snoc before tidy ran ih => exact Effect.wellFormed_run tidy ran ih

lemma limits (h : Carried now start done stage) : stage.store.limits = start.limits := by
  induction h with
  | nil => rfl
  | snoc before tidy ran ih => rw [Effect.limits_run tidy ran, ih]

lemma runAll (h : Carried now start done stage) :
    Effect.runAll now done start = .ok stage.store := by
  induction h with
  | nil => rfl
  | snoc before tidy ran ih =>
      rw [Effect.runAll] at ih ⊢
      rw [List.foldlM_append, ih]
      simp [ran, bind, Except.bind, pure, Except.pure]

/-- Effects take no node away, and bring one in where they act. -/
lemma get?_eq_none_iff (h : Carried now start done stage) :
    stage.store.get? path = none
      ↔ start.get? path = none ∧ ∀ effect ∈ done, effect.place ≠ path := by
  induction h with
  | nil => simp
  | @snoc done stage effect after before tidy ran ih =>
      simp only [List.forall_mem_append, List.forall_mem_singleton, ← and_assoc, ← ih]
      by_cases hplace : effect.place = path
      · subst hplace
        have hsome : ∃ node, after.get? effect.place = some node := by
          cases effect with
          | makeDirectory path =>
              obtain ⟨node, hget, -⟩ := Effect.get?_run_makeDirectory ran
              exact ⟨node, hget⟩
          | write path content permissions =>
              obtain ⟨-, node, hget, -⟩ := Effect.get?_run_write tidy ran
              have hnormal : Path.normalize path = path := tidy
              exact ⟨node, by rwa [Effect.place, Effect.path, hnormal]⟩
        obtain ⟨node, hget⟩ := hsome
        simp [hget]
      · rw [Effect.get?_run_of_ne tidy ran (Ne.symm hplace)]
        simp [hplace]

/-- Effects leave every place alone at which none of them acts. -/
lemma get?_of_ne (h : Carried now start done stage)
    (hother : ∀ effect ∈ done, effect.place ≠ path) :
    stage.store.get? path = start.get? path := by
  induction h with
  | nil => rfl
  | snoc before tidy ran ih =>
      rw [List.forall_mem_append, List.forall_mem_singleton] at hother
      rw [Effect.get?_run_of_ne tidy ran (Ne.symm hother.2), ih hother.1]

/-! ## Paths that were free -/

/-- The stack removes exactly what was not there and was first spelled in normal form. -/
lemma remove_mem_iff (h : Carried now start done stage) (hnormal : IsNormal top) :
    .remove top ∈ stage.undo
      ↔ start.get? top = none
        ∧ (done.find? fun effect => effect.place = top).map Effect.path = some top := by
  induction h with
  | nil => simp
  | @snoc done stage effect after before tidy ran ih =>
      rw [List.mem_append, remove_mem_wayBack_iff tidy ran, ih, before.get?_eq_none_iff,
        List.find?_append]
      cases hfind : done.find? fun effect => effect.place = top with
      | some first =>
          -- the place has been reached before, so this effect cannot be the first there
          have hreached : ¬ ∀ other ∈ done, other.place ≠ top := by
            intro hnone
            have hplace : first.place = top := by simpa using List.find?_some hfind
            exact hnone first (List.mem_of_find?_eq_some hfind) hplace
          simp [hreached]
      | none =>
          have hfree : ∀ other ∈ done, other.place ≠ top := by
            simpa using List.find?_eq_none.mp hfind
          by_cases hpath : effect.path = top
          · have hplace : effect.place = top := by
              rw [Effect.place, hpath]
              exact hnormal
            simpa [hpath, hplace] using fun _ => hfree
          · by_cases hplace : effect.place = top <;> simp [hpath, hplace]

/-- A place is in normal form, whoever reaches it first. -/
lemma isNormal_of_first
    (h : (done.find? fun effect => effect.place = top).map Effect.path = some top) :
    IsNormal top := by
  obtain ⟨first, hfind, -⟩ := Option.map_eq_some_iff.mp h
  have hplace : first.place = top := by simpa using List.find?_some hfind
  exact hplace ▸ Path.isNormal_normalize first.path

/-- **A path is removed exactly if something at or above it was new and properly spelled.** -/
theorem removes_iff (h : Carried now start done stage) (hwell : WellFormed start) :
    (∃ step ∈ stage.undo, step.Removes path)
      ↔ ∃ top, start.get? top = none ∧ (path = top ∨ Path.isBelow path top = true)
        ∧ (done.find? fun effect => effect.place = top).map Effect.path = some top := by
  constructor
  · rintro ⟨step, hstep, hremoves⟩
    cases step with
    | restore => exact hremoves.elim
    | remove top =>
        obtain ⟨hnormal, -, hunder⟩ := hremoves
        obtain ⟨hfree, hfirst⟩ := (h.remove_mem_iff hnormal).mp hstep
        exact ⟨top, hfree, hunder, hfirst⟩
  · rintro ⟨top, hfree, hunder, hfirst⟩
    have hnormal : IsNormal top := isNormal_of_first hfirst
    refine ⟨.remove top, (h.remove_mem_iff hnormal).mpr ⟨hfree, hfirst⟩, hnormal, ?_, hunder⟩
    rintro rfl
    obtain ⟨root, hroot, -⟩ := Store.isDirectory_iff.mp hwell.root
    simp [hfree] at hroot

/-! ## Paths that were occupied -/

/-- A node that no effect has written to. -/
structure Spared (done : List Effect) (stage : Stage) (path : String) (old : Node) : Prop where
  found : ∃ node, stage.store.get? path = some node ∧ node.timeless = old.timeless
  unrestored : ∀ step ∈ stage.undo, ¬ step.Restores path
  unwritten : ∀ content permissions, Effect.write path content permissions ∉ done

/-- A file that effects have written to; of the steps that restore it the last has its first
text. -/
structure Overwritten (start : Store) (done : List Effect) (stage : Stage) (path : String)
    (old : Node) : Prop where
  found : ∃ node content, stage.store.get? path = some node ∧ node.body = .file content
    ∧ content.utf8ByteSize ≤ start.limits.fileSize ∧ node.id = old.id ∧ node.created = old.created
  restored : ∃ text late early, old.body = .file text
    ∧ stage.undo = late ++ .restore path text old.permissions :: early
    ∧ ∀ step ∈ early, ¬ step.Restores path
  written : ∃ content permissions, Effect.write path content permissions ∈ done

/-- An effect that does not write to a path leaves the node there as it is, but for a time. -/
lemma get?_run_of_not_write {node : Node} (htidy : effect.Tidy)
    (hrun : effect.run store now = .ok after) (hget : store.get? path = some node)
    (hother : ∀ content permissions, effect ≠ .write path content permissions) :
    ∃ kept, after.get? path = some kept ∧ kept.timeless = node.timeless := by
  by_cases hplace : effect.place = path
  · cases effect with
    | makeDirectory spelled =>
        change Path.normalize spelled = path at hplace
        obtain ⟨kept, hkept, hsame⟩ := Effect.get?_run_makeDirectory hrun
        rw [hplace] at hkept hsame
        exact ⟨kept, hkept, hsame node hget⟩
    | write spelled content permissions =>
        have hspelled : spelled = path := by
          rw [← hplace]
          exact htidy.symm
        exact absurd (hspelled ▸ rfl) (hother content permissions)
  · exact ⟨node, by rw [Effect.get?_run_of_ne htidy hrun (Ne.symm hplace), hget], rfl⟩

/-- The first write to a file notes its text; nothing below it on the stack restores the path. -/
lemma Spared.write {content : String} {permissions : Option String}
    (h : Spared done stage path old) (hlimits : stage.store.limits = start.limits)
    (hnormal : IsNormal path)
    (hrun : (Effect.write path content permissions).run stage.store now = .ok after) :
    Overwritten start (done ++ [.write path content permissions])
      ⟨after, (Effect.write path content permissions).wayBack stage.store ++ stage.undo⟩
      path old := by
  obtain ⟨⟨current, hcurrent, hsame⟩, hunrestored, -⟩ := h
  obtain ⟨hfits, node, hnode, hbody, hkept⟩ := Effect.get?_run_write hnormal hrun
  obtain ⟨⟨text, htext⟩, hid, hcreated⟩ := hkept current hcurrent
  obtain ⟨hid', -, -, hbody', hpermissions, -, hcreated'⟩ := Node.timeless_eq_iff.mp hsame
  refine ⟨⟨node, content, hnode, hbody, hlimits ▸ hfits, hid.trans hid', hcreated.trans hcreated'⟩,
    ⟨text, [], stage.undo, hbody' ▸ htext, ?_, hunrestored⟩, content, permissions, by simp⟩
  rw [Effect.wayBack, undoWrite_of_file hcurrent htext, hpermissions]
  rfl

/-- A later write notes a text on top of the first one. -/
lemma Overwritten.write {content : String} {permissions : Option String}
    (h : Overwritten start done stage path old) (hlimits : stage.store.limits = start.limits)
    (hnormal : IsNormal path)
    (hrun : (Effect.write path content permissions).run stage.store now = .ok after) :
    Overwritten start (done ++ [.write path content permissions])
      ⟨after, (Effect.write path content permissions).wayBack stage.store ++ stage.undo⟩
      path old := by
  obtain ⟨⟨current, -, hcurrent, -, -, hid', hcreated'⟩, hrestored, -⟩ := h
  obtain ⟨hfits, node, hnode, hbody, hkept⟩ := Effect.get?_run_write hnormal hrun
  obtain ⟨-, hid, hcreated⟩ := hkept current hcurrent
  obtain ⟨text, late, early, htext, hundo, hearly⟩ := hrestored
  refine ⟨⟨node, content, hnode, hbody, hlimits ▸ hfits, hid.trans hid', hcreated.trans hcreated'⟩,
    ⟨text, Stage.undoWrite stage.store path :: late, early, htext, ?_, hearly⟩,
    content, permissions, by simp⟩
  rw [hundo]
  rfl

section Elsewhere

variable (tidy : effect.Tidy) (ran : effect.run stage.store now = .ok after)
  (hother : ∀ content permissions, effect ≠ .write path content permissions)

include tidy ran hother

lemma Spared.other (h : Spared done stage path old) :
    Spared (done ++ [effect]) ⟨after, effect.wayBack stage.store ++ stage.undo⟩ path old := by
  obtain ⟨⟨current, hcurrent, hsame⟩, hunrestored, hunwritten⟩ := h
  obtain ⟨kept, hkept, hsame'⟩ := get?_run_of_not_write tidy ran hcurrent hother
  refine ⟨⟨kept, hkept, hsame'.trans hsame⟩, List.forall_mem_append.mpr ⟨?_, hunrestored⟩, ?_⟩
  · intro step hstep hrestores
    obtain ⟨content, permissions, heq⟩ := write_of_restores_wayBack hstep hrestores
    exact hother content permissions heq
  · intro content permissions hmem
    rcases List.mem_append.mp hmem with hmem | hmem
    · exact hunwritten content permissions hmem
    · exact hother content permissions (List.mem_singleton.mp hmem).symm

lemma Overwritten.other (h : Overwritten start done stage path old) :
    Overwritten start (done ++ [effect]) ⟨after, effect.wayBack stage.store ++ stage.undo⟩
      path old := by
  obtain ⟨⟨current, content, hcurrent, hbody, hfits, hid, hcreated⟩,
    ⟨text, late, early, htext, hundo, hearly⟩, last, permissions, hwritten⟩ := h
  obtain ⟨kept, hkept, hsame⟩ := get?_run_of_not_write tidy ran hcurrent hother
  obtain ⟨hid', -, -, hbody', -, -, hcreated'⟩ := Node.timeless_eq_iff.mp hsame
  refine ⟨⟨kept, content, hkept, hbody'.trans hbody, hfits, hid'.trans hid,
    hcreated'.trans hcreated⟩, ⟨text, effect.wayBack stage.store ++ late, early, htext, ?_, hearly⟩,
    last, permissions, List.mem_append_left _ hwritten⟩
  rw [hundo, List.append_assoc]

end Elsewhere

/-- **An occupied path is spared or overwritten.** -/
theorem spared_or_overwritten (h : Carried now start done stage)
    (hold : start.get? path = some old) :
    Spared done stage path old ∨ Overwritten start done stage path old := by
  induction h with
  | nil => exact Or.inl ⟨⟨old, hold, rfl⟩, by simp, by simp⟩
  | @snoc done stage effect after before tidy ran ih =>
      by_cases hwrite : ∃ content permissions, effect = .write path content permissions
      · obtain ⟨content, permissions, rfl⟩ := hwrite
        refine Or.inr ?_
        rcases ih with hspared | hover
        · exact hspared.write before.limits tidy ran
        · exact hover.write before.limits tidy ran
      · have hother : ∀ content permissions, effect ≠ .write path content permissions :=
          fun content permissions heq => hwrite ⟨content, permissions, heq⟩
        exact ih.imp (·.other tidy ran hother) (·.other tidy ran hother)

/-- Only what was a file is written to. -/
lemma file_of_write {content : String} {permissions : Option String}
    (h : Carried now start done stage) (hwrite : .write path content permissions ∈ done)
    (hold : start.get? path = some old) : ∃ text, old.body = .file text := by
  rcases h.spared_or_overwritten hold with hspared | hover
  · exact absurd hwrite (hspared.unwritten content permissions)
  · obtain ⟨text, -, -, htext, -⟩ := hover.restored
    exact ⟨text, htext⟩

/-- The file that was written last has what was written. -/
lemma body_of_last {content : String} (h : Carried now start done stage)
    (hlast : done.getLast? = some (.file path content)) (hnormal : IsNormal path) :
    ∃ node, stage.store.get? path = some node ∧ node.body = .file content := by
  cases h with
  | nil => simp at hlast
  | snoc before tidy ran =>
      rw [List.getLast?_concat, Option.some_inj] at hlast
      subst hlast
      obtain ⟨-, node, hnode, hbody, -⟩ := Effect.get?_run_write hnormal ran
      exact ⟨node, hnode, hbody⟩

/-- Whatever is removed was free, and nothing was below it, so no occupied path is removed. -/
lemma not_removes (h : Carried now start done stage) (hwell : WellFormed start)
    (hold : start.get? path = some old) : ∀ step ∈ stage.undo, ¬ step.Removes path := by
  intro step hstep hremoves
  obtain ⟨top, hfree, hunder, hfirst⟩ := (h.removes_iff hwell).mp ⟨step, hstep, hremoves⟩
  rcases hunder with rfl | hbelow
  · simp [hfree] at hold
  · obtain rfl : old.path = path := Store.path_of_get? hold
    rw [hwell.not_isBelow_of_get?_eq_none (isNormal_of_first hfirst) hfree
      (Store.mem_of_get? hold)] at hbelow
    exact Bool.noConfusion hbelow

/-! ## Nothing remains -/

theorem recoverable_of_traceless (h : Carried now start done stage) (hwell : WellFormed start)
    (htraceless : Traceless start (Undo.applyAll now stage.undo stage.store).1) :
    Recoverable start done := by
  refine ⟨?_, ?_⟩
  · intro path content permissions hwrite old text hold htext
    rcases h.spared_or_overwritten hold with hspared | hover
    · exact absurd hwrite (hspared.unwritten content permissions)
    · obtain ⟨node, written, hnode, hbody, hfits, -⟩ := hover.found
      -- what was written last is within the limit, and so is whatever has been restored since
      have hsmall : Undo.FitsAt stage.store path := by
        intro found text' hfound htext'
        rw [hnode, Option.some_inj] at hfound
        rw [← hfound, hbody, Body.file.injEq] at htext'
        rw [h.limits]
        exact htext' ▸ hfits
      have hback := htraceless path
      rw [hold, Option.map_some, Option.map_eq_some_iff] at hback
      obtain ⟨last, hlast, hsame⟩ := hback
      obtain ⟨-, -, -, hlastBody, -⟩ := Node.timeless_eq_iff.mp hsame
      have hbody' : last.body = .file text := hlastBody.trans htext
      have hlimit := Undo.fitsAt_applyAll hsmall last text hlast hbody'
      rwa [Undo.limits_applyAll, h.limits] at hlimit
  · intro effect heffect hfree
    rw [← h.removes_iff hwell]
    by_contra hkept
    have hthere : stage.store.get? effect.place ≠ none := by
      rw [Ne, h.get?_eq_none_iff]
      exact fun hnone => hnone.2 effect heffect rfl
    obtain ⟨node, hnode⟩ := Option.ne_none_iff_exists'.mp hthere
    obtain ⟨last, hlast, -⟩ := Undo.exists_get?_applyAll now (h.wellFormed hwell)
      (fun step hstep hremoves => hkept ⟨step, hstep, hremoves⟩) hnode
    have hback := htraceless effect.place
    simp [hlast, hfree] at hback

theorem traceless_of_recoverable (h : Carried now start done stage) (hwell : WellFormed start)
    (hrecoverable : Recoverable start done) :
    Traceless start (Undo.applyAll now stage.undo stage.store).1 := by
  have hstage : WellFormed stage.store := h.wellFormed hwell
  intro path
  cases hold : start.get? path with
  | none =>
      by_cases hreached : ∃ effect ∈ done, effect.place = path
      · obtain ⟨effect, heffect, rfl⟩ := hreached
        have hremoves := (h.removes_iff hwell).mpr (hrecoverable.made effect heffect hold)
        rw [Undo.get?_applyAll_of_removes hstage hremoves]
      · have hnone : stage.store.get? path = none := by
          rw [h.get?_eq_none_iff]
          exact ⟨hold, fun effect heffect hplace => hreached ⟨effect, heffect, hplace⟩⟩
        rw [Undo.get?_applyAll_of_none hnone]
  | some old =>
      have hremoves := h.not_removes hwell hold
      rcases h.spared_or_overwritten hold with hspared | hover
      · obtain ⟨node, hnode, hsame⟩ := hspared.found
        rw [Undo.get?_applyAll_of_spares hstage hremoves hspared.unrestored, hnode]
        simp [hsame]
      · obtain ⟨node, content, hnode, hbody, -, hid, hcreated⟩ := hover.found
        obtain ⟨text, late, early, htext, hundo, hearly⟩ := hover.restored
        obtain ⟨written, permissions, hwritten⟩ := hover.written
        have hfits := hrecoverable.overwritten path written permissions hwritten old text hold htext
        rw [hundo] at hremoves ⊢
        rw [Undo.get?_applyAll_of_restore hstage hremoves hearly hnode hbody (h.limits ▸ hfits)]
        have hpath : node.path = old.path := by
          rw [Store.path_of_get? hnode, Store.path_of_get? hold]
        have hbefore := hwell.accurate old (Store.mem_of_get? hold)
        have hname : node.name = old.name := by
          rw [(hstage.accurate node (Store.mem_of_get? hnode)).name, hbefore.name, hpath]
        have hsize : old.size = text.utf8ByteSize := by
          rw [hbefore.size, htext]
          rfl
        simp [Node.timeless, hid, hcreated, hpath, htext, hname, hsize]

/-- **A performance leaves no trace exactly if its effects can be taken back.** -/
theorem traceless_iff (h : Carried now start done stage) (hwell : WellFormed start) :
    Traceless start (Undo.applyAll now stage.undo stage.store).1 ↔ Recoverable start done :=
  ⟨h.recoverable_of_traceless hwell, h.traceless_of_recoverable hwell⟩

end Carried

/-! ## Performances -/

lemma carryOutAll_eq_error {effects before : List Effect} {failure : Failure} {last : Stage}
    (htidy : ∀ effect ∈ effects, effect.Tidy) (hbefore : Carried now start before stage)
    (h : Stage.carryOutAll now effects stage = (.error failure, last)) :
    ∃ failing rest, effects = Effect.carriedOut now effects stage.store ++ failing :: rest
      ∧ Carried now start (before ++ Effect.carriedOut now effects stage.store) last
      ∧ failing.run last.store now = .error failure := by
  induction effects generalizing before stage with
  | nil => simp [Stage.carryOutAll] at h
  | cons effect rest ih =>
      rw [List.forall_mem_cons] at htidy
      rw [Stage.carryOutAll, Effect.carryOut_eq htidy.1] at h
      rw [Effect.carriedOut]
      cases hrun : effect.run stage.store now with
      | error cause =>
          simp only [hrun, Prod.mk.injEq, Except.error.injEq] at h
          obtain ⟨rfl, rfl⟩ := h
          exact ⟨effect, rest, rfl, by simpa using hbefore, hrun⟩
      | ok after =>
          rw [hrun] at h
          obtain ⟨failing, more, hrest, hcarried, hfailing⟩ :=
            ih htidy.2 (hbefore.snoc htidy.1 hrun) h
          refine ⟨failing, more, by rw [List.cons_append, ← hrest], ?_, hfailing⟩
          simpa using hcarried

lemma carryOutAll_eq_ok {effects before : List Effect} {last : Stage}
    (htidy : ∀ effect ∈ effects, effect.Tidy) (hbefore : Carried now start before stage)
    (h : Stage.carryOutAll now effects stage = (.ok (), last)) :
    Carried now start (before ++ effects) last := by
  induction effects generalizing before stage with
  | nil =>
      obtain rfl : stage = last := by simpa [Stage.carryOutAll] using h
      simpa using hbefore
  | cons effect rest ih =>
      rw [List.forall_mem_cons] at htidy
      rw [Stage.carryOutAll, Effect.carryOut_eq htidy.1] at h
      cases hrun : effect.run stage.store now with
      | error cause => simp [hrun] at h
      | ok after =>
          rw [hrun] at h
          simpa using ih htidy.2 (hbefore.snoc htidy.1 hrun) h

/-- **A performance that fails** has carried out the effects before the first one that fails,
answers the failure of that one, and leaves what the stack makes of the store. -/
theorem ToolScript.perform_eq_error {script : ToolScript} {failure : Failure}
    (htidy : ∀ effect ∈ script.effects, effect.Tidy)
    (h : (script.perform store now).1 = .error failure) :
    ∃ failing rest last,
      script.effects = Effect.carriedOut now script.effects store ++ failing :: rest
      ∧ Carried now store (Effect.carriedOut now script.effects store) last
      ∧ failing.run last.store now = .error failure
      ∧ (script.perform store now).2.1 = (Undo.applyAll now last.undo last.store).1 := by
  simp only [ToolScript.perform] at h ⊢
  cases hall : Stage.carryOutAll now script.effects ⟨store, []⟩ with
  | mk outcome last =>
      cases outcome with
      | ok =>
          rw [hall] at h
          simp at h
      | error cause =>
          rw [hall] at h
          obtain rfl : cause = failure := by simpa using h
          obtain ⟨failing, rest, heffects, hcarried, hfailing⟩ :=
            carryOutAll_eq_error htidy .nil hall
          exact ⟨failing, rest, last, heffects, by simpa using hcarried, hfailing, rfl⟩

/-- **A performance that succeeds** has carried out all effects. -/
theorem ToolScript.perform_eq_carried {script : ToolScript} {reply : Reply}
    (htidy : ∀ effect ∈ script.effects, effect.Tidy)
    (h : (script.perform store now).1 = .ok reply) :
    ∃ last, Carried now store script.effects last
      ∧ (script.perform store now).2.1 = last.store := by
  simp only [ToolScript.perform] at h ⊢
  cases hall : Stage.carryOutAll now script.effects ⟨store, []⟩ with
  | mk outcome last =>
      cases outcome with
      | ok => exact ⟨last, by simpa using carryOutAll_eq_ok htidy .nil hall, rfl⟩
      | error cause =>
          rw [hall] at h
          simp at h

lemma recoverable_nil : Recoverable start [] := ⟨by simp, by simp⟩

/-- If all paths are in normal form, the files that were overwritten decide. -/
lemma recoverable_of_normal (hnormal : ∀ effect ∈ done, IsNormal effect.path)
    (hoverwritten : ∀ path content permissions, Effect.write path content permissions ∈ done →
      ∀ old text, start.get? path = some old → old.body = .file text →
        text.utf8ByteSize ≤ start.limits.fileSize) : Recoverable start done := by
  refine ⟨hoverwritten, fun effect heffect hfree => ?_⟩
  refine ⟨effect.place, hfree, Or.inl rfl, ?_⟩
  cases hfind : done.find? fun other => other.place = effect.place with
  | none =>
      have hnone := List.find?_eq_none.mp hfind effect heffect
      simp at hnone
  | some first =>
      have hplace : first.place = effect.place := by simpa using List.find?_some hfind
      have hspelled : first.place = first.path := hnormal first (List.mem_of_find?_eq_some hfind)
      rw [Option.map_some, ← hspelled, hplace]

/-- Whether a script can be taken back without a trace from a store, whichever of its effects
fails. -/
def ToolScript.Retractable (script : ToolScript) (store : Store) : Prop :=
  ∀ done failing rest, script.effects = done ++ failing :: rest → Recoverable store done

/-- Before the only effect of a script nothing has happened. -/
lemma ToolScript.retractable_of_single {script : ToolScript} (h : script.effects = [effect]) :
    script.Retractable store := by
  intro done failing rest heffects
  cases done with
  | nil => exact recoverable_nil
  | cons first more => simp [h] at heffects

/-- **Rollback.**  On every reachable store whose seed fits, a performance under normal paths that
fails answers the failure of the first effect that fails and leaves no trace. -/
theorem rollback_perform {limits : Limits} {begun : Instant} {calls : List (Instant × Store.Call)}
    {output : String} {effects : List Effect} {failure : Failure} (hseed : Store.SeedFits limits)
    (hproper : ∀ entry ∈ calls, entry.2.Proper)
    (hnormal : ∀ effect ∈ effects, IsNormal effect.path)
    (h : (ToolScript.perform ⟨output, effects⟩ ((Store.new limits begun).run calls) now).1
      = .error failure) :
    (∃ done failing rest middle, effects = done ++ failing :: rest
      ∧ Effect.runAll now done ((Store.new limits begun).run calls) = .ok middle
      ∧ failing.run middle now = .error failure)
    ∧ Traceless ((Store.new limits begun).run calls)
        (ToolScript.perform ⟨output, effects⟩ ((Store.new limits begun).run calls) now).2.1 := by
  have hwell := Store.wellFormed_run limits begun hproper
  have htidy : ∀ effect ∈ effects, effect.Tidy :=
    fun effect heffect => Effect.tidy_of_isNormal (hnormal effect heffect)
  obtain ⟨failing, rest, last, heffects, hcarried, hfailing, hafter⟩ :=
    ToolScript.perform_eq_error htidy h
  refine ⟨⟨_, failing, rest, last.store, heffects, hcarried.runAll, hfailing⟩, ?_⟩
  rw [hafter, hcarried.traceless_iff hwell]
  refine recoverable_of_normal ?_ ?_
  · intro effect heffect
    have hmem := List.mem_append_left (failing :: rest) heffect
    rw [← heffects] at hmem
    exact hnormal effect hmem
  · intro _ _ _ _ old text hold htext
    exact Store.fits_run begun hseed hproper old (Store.mem_of_get? hold) text htext

/-- A new directory with a file in it, a file overwritten twice, and then a parent that is
missing. -/
theorem rollback_perform_of_missing_parent :
    Traceless ((Store.new {} ⟨0, 0⟩).run [(⟨1, 0⟩, .delete "/home/user/Documents")])
      (ToolScript.perform
        ⟨"", [.makeDirectory "/home/user/p", .write "/home/user/p/a" "1" none,
          .write "/home/user/.bashrc" "2" (some executablePermissions),
          .write "/home/user/.bashrc" "3" none, .write "/home/user/Documents/x" "4" none]⟩
        ((Store.new {} ⟨0, 0⟩).run [(⟨1, 0⟩, .delete "/home/user/Documents")]) ⟨2, 0⟩).2.1 := by
  refine (rollback_perform ?_ ?_ ?_
    (?_ : _ = Except.error (Failure.notFound "/home/user/Documents/x"))).2
  · decide +kernel
  · simp [Store.Call.Proper]
  · decide +kernel
  · decide +kernel

end VirtualShell
