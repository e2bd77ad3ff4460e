import VirtualShell.Proofs.Store.Carry
import VirtualShell.Proofs.Store.Run

/-!
# When a move succeeds, and what it leaves

`MayMove` gathers what a move from one path to another asks of a store, and `Relocated` says what
the store after it holds: the subtree under its new path, nothing under the old one, and everything
else but a replaced file as it was.

On a store that can be reached, a move succeeds exactly where `MayMove` holds and then relocates
(`rename_relocates`).  The move in place that carries the nodes one by one succeeds in the same
cases and leaves the same store, whatever the order in which it is told to carry them.
-/

namespace VirtualShell

open Time (Instant)

open VirtualShell.Path (IsNormal)

/-- A path that is not too long as a whole, nor in any of its segments. -/
structure Limits.Allows (limits : Limits) (path : String) : Prop where
  whole : path.utf8ByteSize ≤ limits.pathLength
  names : ∀ name ∈ Text.pieces '/' path.toList, Text.byteLength name ≤ limits.nameLength

lemma Limits.path?_eq_none_iff {limits : Limits} {path : String} :
    limits.path? path = none ↔ limits.Allows path := by
  simp only [Limits.path?]
  split
  · rename_i hlong
    simp only [reduceCtorEq, false_iff]
    exact fun h => absurd h.whole (Nat.not_le.mpr hlong)
  · rename_i hshort
    simp only [Option.map_eq_none_iff, List.find?_eq_none, decide_eq_true_eq, Nat.not_lt]
    exact ⟨fun h => ⟨Nat.not_lt.mp hshort, h⟩, fun h => h.names⟩

lemma Node.kind_eq_file_iff {node : Node} : node.kind = .file ↔ node.isDirectory = false := by
  simp only [Node.isDirectory]
  cases node.kind <;> simp

namespace Store

variable {store after : Store} {source target path : String} {node : Node} {now : Instant}
  {order : List String} {enumerate : List String → List String}

/-! ## When -/

/-- What a move from one path to another asks of a store. -/
structure MayMove (store : Store) (source target : String) : Prop where
  present : store.contains source = true
  notRoot : source ≠ "/"
  outside : Path.isBelow target source = false
  parent : ∃ up, Path.parent? target = some up ∧ store.isDirectory up = true
  /-- Only a file is replaced, and only by a file. -/
  free : ∀ node old, store.get? source = some node → store.get? target = some old →
    node.kind = .file ∧ old.kind = .file
  fits : ∀ node ∈ store.nodes, node.path = source ∨ Path.isBelow node.path source = true →
    store.limits.Allows (Path.rebase node.path source target)

/-- The conditions of a move in the order in which it checks them. -/
lemma mayMove_iff_checks :
    store.MayMove source target
      ↔ ∃ node, store.get? source = some node ∧ source ≠ "/"
        ∧ Path.isBelow target source = false ∧ store.checkParent target = .ok ()
        ∧ store.checkTarget node target = .ok ()
        ∧ ∀ path ∈ InPlace.moving store source,
            store.limits.path? (Path.rebase path source target) = none := by
  simp only [checkParent_eq_ok_iff, checkTarget_eq_ok_iff, Limits.path?_eq_none_iff, mem_moving]
  constructor
  · rintro ⟨hpresent, hroot, houtside, hparent, hfree, hfits⟩
    obtain ⟨node, hget⟩ := contains_eq_true_iff.mp hpresent
    refine ⟨node, hget, hroot, houtside, hparent, ?_, ?_⟩
    · intro old hold
      obtain ⟨hnode, hfile⟩ := hfree node old hget hold
      exact ⟨Node.kind_eq_file_iff.mp hfile, Node.kind_eq_file_iff.mp hnode⟩
    · rintro _ ⟨⟨node, hnode, rfl⟩, hmoves⟩
      exact hfits node hnode hmoves
  · rintro ⟨node, hget, hroot, houtside, hparent, hfree, hfits⟩
    refine ⟨contains_eq_true_iff.mpr ⟨node, hget⟩, hroot, houtside, hparent, ?_,
      fun node hnode hmoves => hfits node.path ⟨⟨node, hnode, rfl⟩, hmoves⟩⟩
    intro found old hfound hold
    obtain rfl : node = found := Option.some_inj.mp (hget.symm.trans hfound)
    obtain ⟨hfile, hnode⟩ := hfree old hold
    exact ⟨Node.kind_eq_file_iff.mpr hnode, Node.kind_eq_file_iff.mpr hfile⟩

lemma movedBreach?_eq_none_iff :
    store.movedBreach? source target = none
      ↔ ∀ path ∈ InPlace.moving store source,
          store.limits.path? (Path.rebase path source target) = none := by
  simp only [movedBreach?, InPlace.moving, List.findSome?_eq_none_iff, List.forall_mem_map]

/-- A move succeeds exactly where it may. -/
theorem exists_rename_iff (hne : source ≠ target) :
    (∃ after, store.rename source target now = .ok after) ↔ store.MayMove source target := by
  simp only [rename_eq_ok_iff hne, movedBreach?_eq_none_iff, mayMove_iff_checks]
  constructor
  · rintro ⟨_, node, hget, hroot, houtside, hparent, hfree, hfits, -⟩
    exact ⟨node, hget, hroot, houtside, hparent, hfree, hfits⟩
  · rintro ⟨node, hget, hroot, houtside, hparent, hfree, hfits⟩
    exact ⟨_, node, hget, hroot, houtside, hparent, hfree, hfits, rfl⟩

/-- The checks of a move in place ask the same, in whatever order they take the new paths. -/
lemma moveCheck_eq_ok_iff_mayMove (horder : order.Perm (InPlace.moving store source)) :
    store.moveCheck order source target = .ok () ↔ store.MayMove source target := by
  simp only [moveCheck_eq_ok_iff, mayMove_iff_checks, horder.mem_iff]

/-- **A move in place succeeds where the move does, and leaves the same store**, in whatever order
it carries the nodes. -/
theorem run_rename_eq_ok_iff (h : WellFormed store) (htarget : IsNormal target)
    (henumerate : ∀ paths, (enumerate paths).Perm paths) :
    (InPlace.rename enumerate source target now).run store = .ok () after
      ↔ store.rename source target now = .ok after := by
  by_cases hne : source = target
  · rw [Store.rename, if_pos hne, pure_eq_ok_iff]
    simp [InPlace.rename, hne, eq_comm]
  have horder := henumerate (InPlace.moving store source)
  rw [run_rename hne]
  cases hcheck : store.moveCheck (enumerate (InPlace.moving store source)) source target with
  | ok =>
      obtain ⟨done, hdone⟩ : ∃ done, store.rename source target now = .ok done :=
        (exists_rename_iff hne).mpr ((moveCheck_eq_ok_iff_mayMove horder).mp hcheck)
      simp [foldl_carry_eq_rename h htarget hne horder hdone, hdone]
  | error failure =>
      simp only [reduceCtorEq, false_iff]
      intro hrename
      have hmay := (exists_rename_iff hne).mp ⟨after, hrename⟩
      rw [(moveCheck_eq_ok_iff_mayMove horder).mpr hmay] at hcheck
      simp at hcheck

/-! ## What -/

/-- What a move from one path to another at a given time leaves of a store. -/
structure Relocated (store : Store) (source target : String) (now : Instant) (after : Store) :
    Prop where
  /-- Each node of the subtree keeps all but its path and its name; only the moved node itself
  counts as changed. -/
  carried : ∀ path node, store.get? path = some node →
    path = source ∨ Path.isBelow path source = true →
    after.get? (Path.rebase path source target) = some
      { node with
        path := Path.rebase path source target
        name := Path.fileName (Path.rebase path source target)
        updated := if path = source then now else node.updated }
  vacated : ∀ path, path = source ∨ Path.isBelow path source = true → after.get? path = none
  /-- What has stood at the target is nowhere to be found. -/
  replaced : ∀ old, store.get? target = some old → ∀ node ∈ after.nodes, node.id ≠ old.id
  kept : ∀ path node, store.get? path = some node →
    ¬ (path = source ∨ Path.isBelow path source = true) → path ≠ target →
    after.get? path = some node
  /-- Nothing is there that has not been there before. -/
  nothingNew : ∀ path node, after.get? path = some node →
    (∃ before, store.contains before = true
      ∧ (before = source ∨ Path.isBelow before source = true)
      ∧ path = Path.rebase before source target)
    ∨ store.get? path = some node
  nextId : after.nextId = store.nextId
  limits : after.limits = store.limits

/-- Where a move is possible, the source does not lie below the target: a node below it would make
the target a directory. -/
lemma Movable.not_isBelow (hmove : Movable store source target) (h : WellFormed store)
    (hpath : store.contains source = true) : Path.isBelow source target = false := by
  obtain ⟨node, hget⟩ := contains_eq_true_iff.mp hpath
  exact path_of_get? hget ▸ hmove.not_isBelow_target h (mem_of_get? hget)

/-- No node is left where the subtree was. -/
lemma Movable.not_moves_place (hmove : Movable store source target) (h : WellFormed store)
    (hpresent : store.contains source = true) (hpath : IsNormal path) :
    ¬ (place source target path = source
      ∨ Path.isBelow (place source target path) source = true) := by
  by_cases hmoves : path = source ∨ Path.isBelow path source = true
  · -- inside both subtrees: then one would lie in the other
    intro hin
    have hnested := Path.nested_of_common (hmove.isNormal_place hpath) hmove.sourceNormal
      hmove.targetNormal hin ?_
    · rcases hnested with hsame | hbelow | hbelow
      · exact hmove.differs hsame
      · rw [hmove.not_isBelow h hpresent] at hbelow
        exact Bool.noConfusion hbelow
      · rw [hmove.outside] at hbelow
        exact Bool.noConfusion hbelow
    · rw [place_of_moves hmoves]
      rcases hmoves with rfl | hbelow
      · exact Or.inl Path.rebase_self
      · exact Or.inr (Path.isBelow_rebase hpath hmove.sourceNormal hmove.targetNormal hbelow)
  · rwa [place_of_stays hmoves]

/-- **A move relocates.** -/
theorem relocated_of_rename (h : WellFormed store) (htarget : IsNormal target)
    (hne : source ≠ target) (hrename : store.rename source target now = .ok after) :
    store.Relocated source target now after := by
  have hmove := movable_of_rename h htarget hne hrename
  have hafter := h.rename htarget hrename
  have hpresent := ((exists_rename_iff hne).mp ⟨after, hrename⟩).present
  have hmem : ∀ {node}, node ∈ after.nodes ↔ _ := mem_rename hne hrename
  -- a node is found at its place as it has been carried there, for places are distinct
  have hfound : ∀ {path node}, store.get? path = some node → path ≠ target →
      after.get? (place source target path) = some (Store.carried source target now node) := by
    intro path node hget hfree
    obtain rfl := path_of_get? hget
    rw [hafter.get?_eq_some_iff, carried_path]
    exact ⟨hmem.mpr ⟨node, mem_of_get? hget, hfree, rfl⟩, rfl⟩
  have hmovesWith : ∀ {path node}, store.get? path = some node →
      (movesWith source node = true ↔ path = source ∨ Path.isBelow path source = true) := by
    intro path node hget
    rw [movesWith_iff, path_of_get? hget]
  constructor
  case carried =>
    intro path node hget hmoves
    have hcarried := hfound hget (hmove.ne_target hmoves)
    rw [place_of_moves hmoves, Store.carried, if_pos ((hmovesWith hget).mpr hmoves), moved,
      path_of_get? hget] at hcarried
    exact hcarried
  case vacated =>
    intro path hmoves
    rw [get?_eq_none_iff]
    rintro node hnode rfl
    obtain ⟨before, hbefore, -, rfl⟩ := hmem.mp hnode
    rw [carried_path] at hmoves
    exact hmove.not_moves_place h hpresent (h.normal before hbefore) hmoves
  case replaced =>
    intro old hold node hnode
    obtain ⟨before, hbefore, hfree, rfl⟩ := hmem.mp hnode
    rw [carried_id]
    intro hsame
    have hnodup : (store.nodes.map Node.id).Nodup := h.ascending.imp fun hlt => Nat.ne_of_lt hlt
    rw [List.inj_on_of_nodup_map hnodup hbefore (mem_of_get? hold) hsame] at hfree
    exact hfree (path_of_get? hold)
  case kept =>
    intro path node hget hstays hfree
    have hkept := hfound hget hfree
    rwa [place_of_stays hstays, Store.carried, if_neg (mt (hmovesWith hget).mp hstays)] at hkept
  case nothingNew =>
    intro path node hget
    obtain ⟨before, hbefore, hfree, rfl⟩ := hmem.mp (mem_of_get? hget)
    have hpath := path_of_get? hget
    have hthere := h.get?_of_mem hbefore
    rw [carried_path] at hpath
    by_cases hmoves : before.path = source ∨ Path.isBelow before.path source = true
    · rw [place_of_moves hmoves] at hpath
      exact Or.inl ⟨before.path, contains_eq_true_iff.mpr ⟨before, hthere⟩, hmoves, hpath.symm⟩
    · rw [place_of_stays hmoves] at hpath
      rw [Store.carried, if_neg (mt (hmovesWith hthere).mp hmoves), ← hpath]
      exact Or.inr hthere
  case nextId =>
    obtain ⟨_, _, _, _, _, _, _, rfl⟩ := (rename_eq_ok_iff hne).mp hrename
    rfl
  case limits =>
    obtain ⟨_, _, _, _, _, _, _, rfl⟩ := (rename_eq_ok_iff hne).mp hrename
    rfl

/-- **Moves on reachable stores.**  A move succeeds exactly where it may, and then relocates.  The
move in place succeeds in the same cases and leaves the same store, whatever the order in which the
map lists the paths. -/
theorem rename_relocates (limits : Limits) (start : Instant) (calls : List (Instant × Call))
    (hproper : ∀ entry ∈ calls, entry.2.Proper) (source target : String) (htarget : IsNormal target)
    (hne : source ≠ target) (now : Instant) :
    let store := (new limits start).run calls
    ((∃ after, store.rename source target now = .ok after) ↔ store.MayMove source target)
      ∧ (∀ after, store.rename source target now = .ok after →
          store.Relocated source target now after)
      ∧ ∀ enumerate : List String → List String, (∀ paths, (enumerate paths).Perm paths) →
          ∀ after, (InPlace.rename enumerate source target now).run store = .ok () after
            ↔ store.rename source target now = .ok after :=
  have hstore := wellFormed_run limits start hproper
  ⟨exists_rename_iff hne, fun _ => relocated_of_rename hstore htarget hne,
    fun _ henumerate _ => run_rename_eq_ok_iff hstore htarget henumerate⟩

/-- A directory with a file in it moves, and the file goes first. -/
theorem rename_relocates_of_project :
    let store := (new {} ⟨0, 0⟩).run
      [(⟨1, 0⟩, .create (.directory "/home/user/a")),
       (⟨2, 0⟩, .upsert (.file "/home/user/a/b" "text"))]
    store.MayMove "/home/user/a" "/home/user/Projects/c"
      ∧ InPlace.moving store "/home/user/a" = ["/home/user/a", "/home/user/a/b"]
      ∧ ∃ after,
        (InPlace.rename List.reverse "/home/user/a" "/home/user/Projects/c" ⟨3, 0⟩).run store
            = .ok () after
          ∧ store.Relocated "/home/user/a" "/home/user/Projects/c" ⟨3, 0⟩ after := by
  intro store
  have hproper : ∀ entry ∈ [((⟨1, 0⟩ : Instant), Call.create (.directory "/home/user/a")),
      (⟨2, 0⟩, .upsert (.file "/home/user/a/b" "text"))], entry.2.Proper := by
    simp only [List.forall_mem_cons, List.not_mem_nil, false_implies, implies_true, and_true]
    exact ⟨.directory _, .file _ _⟩
  obtain ⟨hmay, hleaves, hplace⟩ := rename_relocates {} ⟨0, 0⟩ _ hproper "/home/user/a"
    "/home/user/Projects/c" (by decide) (by decide) ⟨3, 0⟩
  have hdone : (store.rename "/home/user/a" "/home/user/Projects/c" ⟨3, 0⟩).toOption.isSome
      = true := by decide +kernel
  obtain ⟨after, hafter⟩ := Option.isSome_iff_exists.mp hdone
  have hrename := toOption_eq_some_iff.mp hafter
  exact ⟨hmay.mp ⟨after, hrename⟩, by decide +kernel, after,
    (hplace List.reverse List.reverse_perm after).mpr hrename, hleaves after hrename⟩

end Store

end VirtualShell
