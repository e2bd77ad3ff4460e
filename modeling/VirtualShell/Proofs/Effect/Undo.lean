import VirtualShell.Effect
import VirtualShell.Proofs.Store.Change

/-!
# What taking changes back does to a path

The stack of undo steps is worked off on a store that is still a tree, so each step can be read one
path at a time, and what a whole stack does to a path depends only on the steps that concern it.

**Removing.**  A step removes a path if it names the path or something above it, in normal form.  A
removed path is gone for good (`get?_applyAll_of_removes`), since no step creates anything.

**Restoring.**  A path that no step removes keeps its node, with its number, its kind and its time
of creation; of the steps that restore it the last one decides (`get?_applyAll_of_restore`), if its
text is within the limit.

`Traceless` is the comparison that all this aims at: two stores that agree path by path, except for
the times of the last change.
-/

namespace VirtualShell

open Time (Instant)

open VirtualShell.Path (IsNormal)

/-! ## Stores that agree -/

/-- A node as if it had never been changed since it was created. -/
def Node.timeless (node : Node) : Node := { node with updated := node.created }

/-- Equal but for the time of the last change. -/
lemma Node.timeless_eq_iff {a b : Node} :
    a.timeless = b.timeless
      ↔ a.id = b.id ∧ a.path = b.path ∧ a.name = b.name ∧ a.body = b.body
        ∧ a.permissions = b.permissions ∧ a.size = b.size ∧ a.created = b.created := by
  simp only [Node.timeless, Node.mk.injEq]
  tauto

/-- Nothing has happened between two stores that a reader could find out, except by the times of
last changes: every path has the same presence, and its node the same number, name, body,
permissions, size and time of creation. -/
def Store.Traceless (before after : Store) : Prop :=
  ∀ path, (after.get? path).map Node.timeless = (before.get? path).map Node.timeless

namespace Undo

open Store (WellFormed Change)

variable {store : Store} {path : String} {node : Node} {now : Instant} {step : Undo}
  {steps late early : List Undo} {may : NodeKind → String → Prop}

/-- Whether a step takes a path away.  A step that does not spell its path in normal form names no
node and does nothing. -/
def Removes (path : String) : Undo → Prop
  | remove gone => IsNormal gone ∧ gone ≠ "/" ∧ (path = gone ∨ Path.isBelow path gone = true)
  | restore .. => False

/-- Whether a step gives a path its text back. -/
def Restores (path : String) : Undo → Prop
  | remove _ => False
  | restore place .. => place = path

/-! ## One step -/

/-- A removal that finds nothing changes nothing. -/
lemma apply_remove_cases (store : Store) (now : Instant) (gone : String) :
    ((remove gone).apply store now).1 = store ∧ (gone = "/" ∨ store.get? gone = none)
      ∨ ∃ after, store.delete gone = some after ∧ ((remove gone).apply store now).1 = after := by
  cases hdelete : store.delete gone with
  | none =>
      refine Or.inl ⟨by simp [apply, hdelete], ?_⟩
      by_contra hthere
      push Not at hthere
      have hcontains : store.contains gone = true := by
        simpa [Store.contains, Option.isSome_iff_ne_none] using hthere.2
      simp [Store.delete, hthere.1, hcontains] at hdelete
  | some after => exact Or.inr ⟨after, rfl, by simp [apply, hdelete]⟩

/-- A restoration either replaces the node that is there or is refused and changes nothing. -/
lemma apply_restore_cases (store : Store) (now : Instant) (place content permissions : String) :
    ((restore place content permissions).apply store now).1 = store
      ∨ ∃ old new, store.get? place = some old ∧ new.path = place ∧ new.id = old.id
        ∧ new.created = old.created
        ∧ (∃ made, store.amended old (some content) = .ok made ∧ new.body = made.body)
        ∧ ((restore place content permissions).apply store now).1 = store.replace new := by
  cases hupdate : store.update place ⟨some content, some permissions⟩ now with
  | error failure => exact Or.inl (by simp [apply, hupdate])
  | ok result =>
      obtain ⟨old, made, hold, hmade, hresult⟩ := Store.update_eq_ok_iff.mp hupdate
      obtain ⟨hid, hpath, -, -, hcreated⟩ := Store.kept_of_amended hmade
      refine Or.inr ⟨old, { made with permissions := permissions, updated := now }, hold, ?_, hid,
        hcreated, ⟨made, hmade, rfl⟩, ?_⟩
      · change made.path = place
        rw [hpath, Store.path_of_get? hold]
      · simp [apply, hupdate, hresult]

/-- A step is a change of the store; what permissions it brings back is for the stack to know. -/
lemma change_apply
    (hmay : ∀ place content permissions node, step = restore place content permissions
      → store.get? place = some node → may node.body.kind permissions) :
    Change may store (step.apply store now).1 := by
  cases step with
  | remove gone =>
      rcases apply_remove_cases store now gone with
        ⟨hsame, -⟩ | ⟨after, hdelete, hafter⟩
      · rw [hsame]
        exact .stay
      · rw [hafter]
        exact .delete hdelete
  | restore place content permissions =>
      cases hupdate : store.update place ⟨some content, some permissions⟩ now with
      | error failure =>
          simp only [apply, hupdate]
          exact .stay
      | ok result =>
          simp only [apply, hupdate]
          refine Store.change_of_update ?_ hupdate
          intro old shown hold hshown
          obtain rfl : permissions = shown := by simpa using hshown
          exact hmay place content permissions old rfl hold

/-- As far as the tree is concerned, a step may bring back any permissions. -/
lemma change_apply_tree : Change (fun _ _ => True) store (step.apply store now).1 :=
  change_apply fun _ _ _ _ _ _ => trivial

lemma wellFormed_apply (h : WellFormed store) : WellFormed (step.apply store now).1 :=
  h.of_change change_apply_tree

lemma limits_apply : (step.apply store now).1.limits = store.limits :=
  change_apply_tree.limits

/-- No step creates anything. -/
lemma get?_apply_of_none (h : store.get? path = none) :
    (step.apply store now).1.get? path = none := by
  cases step with
  | remove gone =>
      rcases apply_remove_cases store now gone with
        ⟨hsame, -⟩ | ⟨after, hdelete, hafter⟩
      · rw [hsame, h]
      · rw [hafter, Store.get?_delete hdelete, h, ite_self]
  | restore place content permissions =>
      rcases apply_restore_cases store now place content permissions with
        hsame | ⟨old, new, -, -, -, -, -, hafter⟩
      · rw [hsame, h]
      · rw [hafter, Store.get?_replace, h, Option.map_none]

lemma get?_apply_of_removes (hwell : WellFormed store) (h : step.Removes path) :
    (step.apply store now).1.get? path = none := by
  cases step with
  | restore => exact h.elim
  | remove gone =>
      obtain ⟨hnormal, hroot, hunder⟩ := h
      rcases apply_remove_cases store now gone with
        ⟨hsame, hnone⟩ | ⟨after, hdelete, hafter⟩
      · rw [hsame]
        have hfree := hnone.resolve_left hroot
        rcases hunder with rfl | hbelow
        · exact hfree
        · rw [Store.get?_eq_none_iff]
          rintro node hnode rfl
          rw [hwell.not_isBelow_of_get?_eq_none hnormal hfree hnode] at hbelow
          exact Bool.noConfusion hbelow
      · rw [hafter, Store.get?_delete hdelete, Store.staysWithout_eq_false_iff.mpr hunder]
        rfl

/-- A step that concerns another path leaves this one alone. -/
lemma get?_apply_of_spares (hwell : WellFormed store) (hremoves : ¬ step.Removes path)
    (hrestores : ¬ step.Restores path) :
    (step.apply store now).1.get? path = store.get? path := by
  cases step with
  | remove gone =>
      rcases apply_remove_cases store now gone with
        ⟨hsame, -⟩ | ⟨after, hdelete, hafter⟩
      · rw [hsame]
      · obtain ⟨hroot, hcontains, -⟩ := Store.delete_eq_some_iff.mp hdelete
        have hstays : Store.staysWithout path gone = true := by
          rw [← Bool.not_eq_false, Store.staysWithout_eq_false_iff]
          exact fun hunder => hremoves ⟨hwell.isNormal_of_contains hcontains, hroot, hunder⟩
        rw [hafter, Store.get?_delete hdelete, if_pos hstays]
  | restore place content permissions =>
      rcases apply_restore_cases store now place content permissions with
        hsame | ⟨old, new, -, hnew, -, -, -, hafter⟩
      · rw [hsame]
      · rw [hafter, Store.get?_replace_of_ne]
        rw [hnew]
        exact fun hplace => hrestores hplace.symm

/-- A path that is not removed keeps its node, with its number, kind and time of creation. -/
lemma exists_get?_apply (now : Instant) (hwell : WellFormed store) (hremoves : ¬ step.Removes path)
    (h : store.get? path = some node) :
    ∃ kept, (step.apply store now).1.get? path = some kept ∧ kept.id = node.id
      ∧ kept.body.kind = node.body.kind ∧ kept.created = node.created := by
  by_cases hrestores : step.Restores path
  · cases step with
    | remove gone => exact hrestores.elim
    | restore place content permissions =>
        obtain rfl : place = path := hrestores
        rcases apply_restore_cases store now place content permissions with
          hsame | ⟨old, new, hold, hnew, hid, hcreated, ⟨made, hmade, hbody⟩, hafter⟩
        · exact ⟨node, by rw [hsame, h], rfl, rfl, rfl⟩
        · obtain rfl : node = old := by
            rw [h, Option.some_inj] at hold
            exact hold
          obtain ⟨-, -, -, hkind, -⟩ := Store.kept_of_amended hmade
          exact ⟨new, by rw [hafter, Store.get?_replace_self hnew h], hid, hbody ▸ hkind, hcreated⟩
  · exact ⟨node, by rw [get?_apply_of_spares hwell hremoves hrestores, h], rfl, rfl, rfl⟩

/-- Restoring a file to a text that is within the limit succeeds. -/
lemma get?_apply_restore {content permissions old : String}
    (h : store.get? path = some node) (hbody : node.body = .file old)
    (hfits : content.utf8ByteSize ≤ store.limits.fileSize) :
    ((restore path content permissions).apply store now).1.get? path
      = some { node with body := .file content, permissions := permissions,
                         size := content.utf8ByteSize, updated := now } := by
  have hamended : store.amended node (some content) = .ok (node.write content) :=
    Store.amended_eq_ok_iff.mpr (Or.inr ⟨old, content, hbody, rfl, hfits, rfl⟩)
  have hupdate : store.update path ⟨some content, some permissions⟩ now = .ok _ :=
    Store.update_eq_ok_iff.mpr ⟨node, _, h, hamended, rfl⟩
  simp only [apply, hupdate, Option.getD_some]
  have hpath : node.path = path := Store.path_of_get? h
  exact Store.get?_replace_self hpath h

/-! ## A stack of steps -/

lemma applyAll_cons :
    (applyAll now (step :: steps) store).1 = (applyAll now steps (step.apply store now).1).1 := rfl

lemma applyAll_append :
    (applyAll now (late ++ early) store).1
      = (applyAll now early (applyAll now late store).1).1 := by
  induction late generalizing store with
  | nil => rfl
  | cons step rest ih => exact ih

lemma wellFormed_applyAll (h : WellFormed store) : WellFormed (applyAll now steps store).1 := by
  induction steps generalizing store with
  | nil => exact h
  | cons step rest ih => exact ih (wellFormed_apply h)

lemma limits_applyAll : (applyAll now steps store).1.limits = store.limits := by
  induction steps generalizing store with
  | nil => rfl
  | cons step rest ih => rw [applyAll_cons, ih, limits_apply]

lemma get?_applyAll_of_none (h : store.get? path = none) :
    (applyAll now steps store).1.get? path = none := by
  induction steps generalizing store with
  | nil => exact h
  | cons step rest ih => exact ih (get?_apply_of_none h)

/-- **A path that some step removes is gone in the end.** -/
theorem get?_applyAll_of_removes (hwell : WellFormed store)
    (h : ∃ step ∈ steps, step.Removes path) : (applyAll now steps store).1.get? path = none := by
  obtain ⟨step, hstep, hremoves⟩ := h
  obtain ⟨late, early, rfl⟩ := List.append_of_mem hstep
  rw [applyAll_append, applyAll_cons]
  exact get?_applyAll_of_none (get?_apply_of_removes (wellFormed_applyAll hwell) hremoves)

lemma get?_applyAll_of_spares (hwell : WellFormed store)
    (hremoves : ∀ step ∈ steps, ¬ step.Removes path)
    (hrestores : ∀ step ∈ steps, ¬ step.Restores path) :
    (applyAll now steps store).1.get? path = store.get? path := by
  induction steps generalizing store with
  | nil => rfl
  | cons step rest ih =>
      rw [List.forall_mem_cons] at hremoves hrestores
      rw [applyAll_cons, ih (wellFormed_apply hwell) hremoves.2 hrestores.2,
        get?_apply_of_spares hwell hremoves.1 hrestores.1]

lemma exists_get?_applyAll (now : Instant) (hwell : WellFormed store)
    (hremoves : ∀ step ∈ steps, ¬ step.Removes path) (h : store.get? path = some node) :
    ∃ kept, (applyAll now steps store).1.get? path = some kept ∧ kept.id = node.id
      ∧ kept.body.kind = node.body.kind ∧ kept.created = node.created := by
  induction steps generalizing store node with
  | nil => exact ⟨node, h, rfl, rfl, rfl⟩
  | cons step rest ih =>
      rw [List.forall_mem_cons] at hremoves
      obtain ⟨next, hnext, hid, hkind, hcreated⟩ :=
        exists_get?_apply now hwell hremoves.1 h
      obtain ⟨kept, hkept, hid', hkind', hcreated'⟩ :=
        ih (wellFormed_apply hwell) hremoves.2 hnext
      exact ⟨kept, hkept, hid'.trans hid, hkind'.trans hkind, hcreated'.trans hcreated⟩

/-- **Of the steps that restore a file the last one decides**, if its text is within the limit. -/
theorem get?_applyAll_of_restore {content permissions old : String} (hwell : WellFormed store)
    (hremoves : ∀ step ∈ late ++ restore path content permissions :: early, ¬ step.Removes path)
    (hlast : ∀ step ∈ early, ¬ step.Restores path) (h : store.get? path = some node)
    (hbody : node.body = .file old) (hfits : content.utf8ByteSize ≤ store.limits.fileSize) :
    ((applyAll now (late ++ restore path content permissions :: early) store).1.get? path).map
        Node.timeless
      = some { node with body := .file content, permissions := permissions,
                         size := content.utf8ByteSize, updated := node.created } := by
  rw [List.forall_mem_append, List.forall_mem_cons] at hremoves
  obtain ⟨hlate, -, hearly⟩ := hremoves
  obtain ⟨kept, hkept, hid, hkind, hcreated⟩ := exists_get?_applyAll now hwell hlate h
  obtain ⟨text, htext⟩ : ∃ text, kept.body = .file text := by
    rw [← Body.kind_eq_file_iff, hkind, hbody]
    rfl
  have hwell' : WellFormed (applyAll now late store).1 := wellFormed_applyAll hwell
  rw [applyAll_append, applyAll_cons,
    get?_applyAll_of_spares (wellFormed_apply hwell') hearly hlast,
    get?_apply_restore hkept htext (by rw [limits_applyAll]; exact hfits)]
  have hpath : kept.path = node.path := by
    rw [Store.path_of_get? hkept, Store.path_of_get? h]
  have hname : kept.name = node.name := by
    rw [(hwell'.accurate kept (Store.mem_of_get? hkept)).name,
      (hwell.accurate node (Store.mem_of_get? h)).name, hpath]
  simp [Node.timeless, hid, hcreated, hpath, hname]

/-! ## Restorations that are refused -/

/-- Whether a file at a path is within the limit. -/
def FitsAt (store : Store) (path : String) : Prop :=
  ∀ found content, store.get? path = some found → found.body = .file content
    → content.utf8ByteSize ≤ store.limits.fileSize

/-- A restoration is checked like any other change, so it brings back nothing that is too large. -/
lemma fitsAt_apply (h : FitsAt store path) : FitsAt (step.apply store now).1 path := by
  intro found content hfound hbody
  rw [limits_apply]
  cases step with
  | remove gone =>
      rcases apply_remove_cases store now gone with
        ⟨hsame, -⟩ | ⟨after, hdelete, hafter⟩
      · rw [hsame] at hfound
        exact h found content hfound hbody
      · rw [hafter, Store.get?_delete hdelete, Option.ite_none_right_eq_some] at hfound
        exact h found content hfound.2 hbody
  | restore place text permissions =>
      rcases apply_restore_cases store now place text permissions with
        hsame | ⟨old, new, hold, hnew, -, -, ⟨made, hmade, hsame⟩, hafter⟩
      · rw [hsame] at hfound
        exact h found content hfound hbody
      · by_cases hplace : place = path
        · subst hplace
          rw [hafter, Store.get?_replace_self hnew hold, Option.some_inj] at hfound
          rw [hfound, hbody] at hsame
          rcases Store.amended_eq_ok_iff.mp hmade with ⟨rfl, -⟩ | ⟨_, _, -, -, hfits, rfl⟩
          · exact h _ content hold hsame.symm
          · obtain rfl := Body.file.inj hsame
            exact hfits
        · rw [hafter, Store.get?_replace_of_ne (hnew ▸ Ne.symm hplace)] at hfound
          exact h found content hfound hbody

lemma fitsAt_applyAll (h : FitsAt store path) : FitsAt (applyAll now steps store).1 path := by
  induction steps generalizing store with
  | nil => exact h
  | cons step rest ih => exact ih (fitsAt_apply h)

end Undo

end VirtualShell
