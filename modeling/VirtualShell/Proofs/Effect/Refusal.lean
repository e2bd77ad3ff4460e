import VirtualShell.Proofs.Effect.Safe

/-!
# What a rollback reports

A file that a tool has overwritten is given its text back like any other text, under the limit on
sizes.  If it is refused, the log is told which path it was.  That happens only to a file that was
there before the tool began and was too large already (`Carried.refused`): what the tool itself has
written is within the limit, and a file that has been there is still there when it is restored.  And
it happens to every such file that the tool has overwritten (`Carried.reported_iff`).

The stack is followed from the top.  Its lower part is applied to a store that need not be the stage
of that height, since refusals leave texts and times behind, but still retains its nodes.
-/

namespace VirtualShell

open Time (Instant)

open Store (Retains WellFormed)

namespace Undo

variable {store : Store} {path : String} {node : Node} {now : Instant} {late early : List Undo}

/-- The report that a file of a store was too large to be restored. -/
def Refused (store : Store) (event : Log.Event) : Prop :=
  ∃ path breach, event = .restoreFailed path (Failure.limitExceeded breach).message
    ∧ ¬ FitsAt store path

lemma applyAll_append_events :
    (applyAll now (late ++ early) store).2
      = (applyAll now late store).2 ++ (applyAll now early (applyAll now late store).1).2 := by
  induction late generalizing store with
  | nil => rfl
  | cons step rest ih =>
      change (step.apply store now).2 ++ (applyAll now (rest ++ early) _).2 = _
      rw [ih, ← List.append_assoc]
      rfl

/-- A file that is there is restored, or its text is too large. -/
lemma apply_restore_events {content permissions old : String} (h : store.get? path = some node)
    (hbody : node.body = .file old) :
    ((restore path content permissions).apply store now).2
      = ((store.limits.fileSize? content.utf8ByteSize).map fun breach =>
          .restoreFailed path (Failure.limitExceeded breach).message).toList := by
  simp only [apply, Store.update, h, Store.amended, hbody, Store.within]
  cases store.limits.fileSize? content.utf8ByteSize <;> rfl

/-- Only a step that restores a path reports it. -/
lemma exists_restores_of_reported {steps : List Undo} {error : String}
    (h : .restoreFailed path error ∈ (applyAll now steps store).2) :
    ∃ step ∈ steps, step.Restores path := by
  induction steps generalizing store with
  | nil => simp [applyAll] at h
  | cons step rest ih =>
      rcases List.mem_append.mp h with hhere | hlater
      · refine ⟨step, List.mem_cons_self, ?_⟩
        cases step with
        | remove gone => simp at hhere
        | restore place content permissions =>
            simp only at hhere
            split at hhere
            · simp at hhere
            · exact (Log.Event.restoreFailed.inj (List.mem_singleton.mp hhere)).1.symm
      · obtain ⟨later, hmem, hrestores⟩ := ih hlater
        exact ⟨later, List.mem_cons_of_mem _ hmem, hrestores⟩

end Undo

namespace Effect

variable {store after kept : Store} {effect : Effect} {now : Instant} {path : String}

/-- Whatever an effect writes is within the limit. -/
lemma fitsAt_run (htidy : effect.Tidy) (h : effect.run store now = .ok after)
    (hfits : Undo.FitsAt store path) : Undo.FitsAt after path := by
  have hlimits := limits_run htidy h
  intro found text hfound htext
  rw [hlimits]
  by_cases hplace : path = effect.place
  · subst hplace
    cases effect with
    | makeDirectory spelled =>
        obtain ⟨⟨node, _⟩, hupsert, rfl⟩ := map_eq_ok_iff.mp h
        obtain ⟨hnode, hbody, -⟩ := Store.get?_upsert hupsert
        obtain rfl : node = found := Option.some_inj.mp (hnode.symm.trans hfound)
        rw [hbody] at htext
        cases htext
    | write spelled content permissions =>
        have hnormal : Path.normalize spelled = spelled := htidy
        obtain ⟨hsize, node, hnode, hbody, -⟩ := get?_run_write htidy h
        rw [place, Effect.path, hnormal, hnode, Option.some_inj] at hfound
        rw [← hfound, hbody, Body.file.injEq] at htext
        exact htext ▸ hsize
  · rw [get?_run_of_ne htidy h hplace] at hfound
    exact hfits found text hfound htext

/-- The way back from one effect, on any store that retains the nodes: only a file that was too
large before the effect is refused. -/
lemma refused_wayBack (htidy : effect.Tidy) (h : effect.run store now = .ok after)
    (hretains : Retains store kept) (hlimits : kept.limits = store.limits) :
    ∀ event ∈ (Undo.applyAll now (effect.wayBack store) kept).2, Undo.Refused store event := by
  cases effect with
  | makeDirectory spelled =>
      simp only [wayBack]
      split_ifs <;> simp [Undo.applyAll, Undo.apply]
  | write spelled content permissions =>
      simp only [wayBack]
      cases hold : store.get? spelled with
      | none => simp [undoWrite_of_none hold, Undo.applyAll, Undo.apply]
      | some old =>
          obtain ⟨-, node, -, -, hbefore⟩ := get?_run_write htidy h
          obtain ⟨⟨text, htext⟩, -⟩ := hbefore old hold
          obtain ⟨there, hthere, -, hkind, -⟩ := hretains spelled old hold
          have hfile : there.kind = .file := by
            rw [hkind]
            exact Body.kind_eq_file_iff.mpr ⟨text, htext⟩
          obtain ⟨current, hcurrent⟩ := Body.kind_eq_file_iff.mp hfile
          intro event hevent
          rw [undoWrite_of_file hold htext] at hevent
          simp only [Undo.applyAll, List.append_nil, Undo.apply_restore_events hthere hcurrent,
            Option.mem_toList, Option.map_eq_some_iff, hlimits] at hevent
          obtain ⟨breach, hbreach, rfl⟩ := hevent
          refine ⟨spelled, breach, rfl, fun hfits => ?_⟩
          have hsize := hfits old text hold htext
          rw [Limits.fileSize?, if_neg (Nat.not_lt.mpr hsize)] at hbreach
          simp at hbreach

end Effect

namespace Carried

variable {now : Instant} {start kept : Store} {done : List Effect} {stage : Stage} {path : String}

lemma fitsAt (h : Carried now start done stage) (hfits : Undo.FitsAt start path) :
    Undo.FitsAt stage.store path := by
  induction h with
  | nil => exact hfits
  | snoc before tidy ran ih => exact Effect.fitsAt_run tidy ran ih

/-- **Only what was too large before is refused**, by induction on what has been carried out: the
way back from the last effect leads to a store that retains the stage before it. -/
theorem refused (h : Carried now start done stage) (hwell : WellFormed start)
    (hkept : WellFormed kept) (hretains : Retains stage.store kept)
    (hlimits : kept.limits = start.limits) :
    ∀ event ∈ (Undo.applyAll now stage.undo kept).2, Undo.Refused start event := by
  induction h generalizing kept with
  | nil => simp [Undo.applyAll]
  | @snoc done stage effect after before tidy ran ih =>
      have hstage : WellFormed stage.store := before.wellFormed hwell
      have hone : Carried now stage.store [effect] ⟨after, effect.wayBack stage.store ++ []⟩ :=
        .snoc .nil tidy ran
      have hback : Retains stage.store kept := hone.retains.trans hretains
      rw [Undo.applyAll_append_events, List.forall_mem_append]
      constructor
      · intro event hevent
        obtain ⟨path, breach, rfl, hlarge⟩ :=
          Effect.refused_wayBack tidy ran hback (hlimits.trans before.limits.symm) event hevent
        exact ⟨path, breach, rfl, fun hfits => hlarge (before.fitsAt hfits)⟩
      · refine ih (Undo.wellFormed_applyAll hkept) ?_ (Undo.limits_applyAll.trans hlimits)
        intro path old hold
        obtain ⟨node, hnode, hid, hkind, hcreated⟩ := hback path old hold
        have hremoves := hone.not_removes hstage hold
        rw [List.append_nil] at hremoves
        obtain ⟨last, hlast, hid', hkind', hcreated'⟩ :=
          Undo.exists_get?_applyAll now hkept hremoves hnode
        exact ⟨last, hlast, hid'.trans hid, hkind'.trans hkind, hcreated'.trans hcreated⟩

/-- **Which paths are reported**: those of files that were overwritten and had been too large
before.  The step that gives such a file its first text comes last, and the file is there then. -/
theorem reported_iff (h : Carried now start done stage) (hwell : WellFormed start) :
    (∃ error, .restoreFailed path error ∈ (Undo.applyAll now stage.undo stage.store).2)
      ↔ (∃ content permissions, Effect.write path content permissions ∈ done)
        ∧ ¬ Undo.FitsAt start path := by
  have hstage : WellFormed stage.store := h.wellFormed hwell
  have hwritten : ¬ Undo.FitsAt start path → ∃ old, start.get? path = some old := by
    intro hlarge
    by_contra hnone
    exact hlarge fun old text hold => absurd ⟨old, hold⟩ hnone
  constructor
  · rintro ⟨error, hreported⟩
    have hlarge : ¬ Undo.FitsAt start path := by
      obtain ⟨_, _, hevent, hlarge⟩ := h.refused hwell hstage .refl h.limits _ hreported
      exact (Log.Event.restoreFailed.inj hevent).1 ▸ hlarge
    refine ⟨?_, hlarge⟩
    obtain ⟨old, hold⟩ := hwritten hlarge
    obtain ⟨step, hstep, hrestores⟩ := Undo.exists_restores_of_reported hreported
    rcases h.spared_or_overwritten hold with hspared | hover
    · exact absurd hrestores (hspared.unrestored step hstep)
    · exact hover.written
  · rintro ⟨⟨content, permissions, hwrite⟩, hlarge⟩
    obtain ⟨old, hold⟩ := hwritten hlarge
    have hover := (h.spared_or_overwritten hold).resolve_left fun hspared =>
      hspared.unwritten content permissions hwrite
    obtain ⟨node, last, hnode, hbody, -⟩ := hover.found
    obtain ⟨text, late, early, htext, hundo, -⟩ := hover.restored
    have hremoves : ∀ step ∈ late, ¬ step.Removes path := fun step hstep =>
      h.not_removes hwell hold step (hundo ▸ List.mem_append_left _ hstep)
    obtain ⟨there, hthere, -, hkind, -⟩ := Undo.exists_get?_applyAll now hstage hremoves hnode
    obtain ⟨current, hcurrent⟩ :=
      Body.kind_eq_file_iff.mp (hkind.trans (Body.kind_eq_file_iff.mpr ⟨last, hbody⟩))
    obtain ⟨breach, hbreach⟩ :
        ∃ breach, start.limits.fileSize? text.utf8ByteSize = some breach := by
      rw [Limits.fileSize?, if_pos]
      · exact ⟨_, rfl⟩
      · by_contra hfits
        refine hlarge fun found content hfound hcontent => ?_
        rw [hold, Option.some_inj] at hfound
        rw [← hfound, htext, Body.file.injEq] at hcontent
        exact hcontent ▸ Nat.le_of_not_lt hfits
    refine ⟨(Failure.limitExceeded breach).message, ?_⟩
    have hreport : .restoreFailed path (Failure.limitExceeded breach).message
        ∈ ((Undo.restore path text old.permissions).apply
            (Undo.applyAll now late stage.store).1 now).2 := by
      rw [Undo.apply_restore_events hthere hcurrent, Undo.limits_applyAll, h.limits, hbreach]
      exact List.mem_singleton_self _
    rw [hundo, Undo.applyAll_append_events]
    exact List.mem_append_right _ (List.mem_append_left _ hreport)

end Carried

/-- **What a performance reports** are files that were too large before it began. -/
theorem ToolScript.perform_refused {script : ToolScript} {store : Store} (now : Instant)
    (htidy : ∀ effect ∈ script.effects, effect.Tidy) (hwell : WellFormed store) :
    ∀ event ∈ (script.perform store now).2.2, Undo.Refused store event := by
  simp only [perform]
  cases hall : Stage.carryOutAll now script.effects ⟨store, []⟩ with
  | mk outcome last =>
      cases outcome with
      | ok => simp
      | error failure =>
          obtain ⟨_, _, _, hcarried, -⟩ := carryOutAll_eq_error htidy .nil hall
          exact hcarried.refused hwell (hcarried.wellFormed hwell) .refl hcarried.limits

/-- A performance that succeeds reports nothing; one that fails reports the files that it had
overwritten and that were too large before. -/
theorem ToolScript.perform_reported_iff {script : ToolScript} {store : Store} (path : String)
    (now : Instant) (htidy : ∀ effect ∈ script.effects, effect.Tidy) (hwell : WellFormed store) :
    (∃ error, .restoreFailed path error ∈ (script.perform store now).2.2)
      ↔ (∃ failure, (script.perform store now).1 = .error failure)
        ∧ (∃ content permissions,
            Effect.write path content permissions ∈ Effect.carriedOut now script.effects store)
        ∧ ¬ Undo.FitsAt store path := by
  simp only [perform]
  cases hall : Stage.carryOutAll now script.effects ⟨store, []⟩ with
  | mk outcome last =>
      cases outcome with
      | ok => simp
      | error failure =>
          obtain ⟨_, _, _, hcarried, -⟩ := carryOutAll_eq_error htidy .nil hall
          simpa using hcarried.reported_iff hwell

end VirtualShell
