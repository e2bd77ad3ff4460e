import VirtualShell.Proofs.Store.Invariant

/-!
# Moving a subtree

A move carries every node at or below the source to its place under the target and leaves the others
where they are.  `place` is this map on paths, and the invariant is kept because of what the checks
of `rename` say about it, gathered in `Movable`:

* it is injective on the paths that are left, since nothing lies below the target;
* it takes directories to directories, since the target is none of them;
* it commutes with taking the parent, except at the source itself, whose parent becomes that of
  the target.
-/

namespace VirtualShell.Store

open Time (Instant)

open VirtualShell.Path (IsNormal)

/-- Where a path is found after a move. -/
def place (source target path : String) : String :=
  if path = source ∨ Path.isBelow path source = true then Path.rebase path source target else path

/-- What the checks of `rename` establish before anything moves. -/
structure Movable (store : Store) (source target : String) : Prop where
  sourceNormal : IsNormal source
  targetNormal : IsNormal target
  differs : source ≠ target
  notRoot : source ≠ "/"
  outside : Path.isBelow target source = false
  parent : ∃ up, Path.parent? target = some up ∧ store.isDirectory up = true
  /-- The target is free, or a file. -/
  noDirectory : store.isDirectory target = false

variable {store after : Store} {source target path other : String} {node : Node} {now : Instant}

lemma movable_of_rename (h : WellFormed store) (htarget : IsNormal target)
    (hne : source ≠ target) (hrename : store.rename source target now = .ok after) :
    Movable store source target := by
  obtain ⟨node, hget, hroot, hbelow, hparent, hfree, -⟩ := (rename_eq_ok_iff hne).mp hrename
  refine ⟨h.isNormal_of_get? hget, htarget, hne, hroot, hbelow,
    checkParent_eq_ok_iff.mp hparent, ?_⟩
  rw [Bool.eq_false_iff]
  intro hdir
  obtain ⟨found, hfound, hbody⟩ := isDirectory_iff.mp hdir
  have hno := (checkTarget_eq_ok_iff.mp hfree found hfound).1
  rw [Node.isDirectory_iff.mpr hbody] at hno
  exact Bool.noConfusion hno

lemma movesWith_iff :
    movesWith source node = true
      ↔ node.path = source ∨ Path.isBelow node.path source = true := by
  simp [movesWith]

lemma place_of_stays (h : ¬ (path = source ∨ Path.isBelow path source = true)) :
    place source target path = path := if_neg h

lemma place_of_moves (h : path = source ∨ Path.isBelow path source = true) :
    place source target path = Path.rebase path source target := if_pos h

namespace Movable

/-- Nothing lies below the target. -/
lemma not_isBelow_target (hmove : Movable store source target) (h : WellFormed store)
    (hnode : node ∈ store.nodes) : Path.isBelow node.path target = false := by
  rw [Bool.eq_false_iff]
  intro hbelow
  have hdir := h.isDirectory_of_isBelow hnode hmove.targetNormal hbelow
  rw [hmove.noDirectory] at hdir
  exact Bool.noConfusion hdir

/-- No path that stays is where a moved one goes, unless it is the target. -/
lemma eq_target_of_place_eq (hmove : Movable store source target) (h : WellFormed store)
    (hnode : node ∈ store.nodes) (hpath : IsNormal path)
    (hmoves : path = source ∨ Path.isBelow path source = true)
    (heq : Path.rebase path source target = node.path) : node.path = target := by
  rcases hmoves with rfl | hbelow
  · rw [← heq, Path.rebase_self]
  · have hunder := Path.isBelow_rebase hpath hmove.sourceNormal hmove.targetNormal hbelow
    rw [heq, hmove.not_isBelow_target h hnode] at hunder
    exact Bool.noConfusion hunder

/-- No two nodes meet, and they would not if only some of the paths had been carried. -/
lemma inj_of_carried (hmove : Movable store source target) (h : WellFormed store)
    {gone : String → Prop} [DecidablePred gone]
    (hgone : ∀ path, gone path → path = source ∨ Path.isBelow path source = true) {a b : Node}
    (ha : a ∈ store.nodes) (hb : b ∈ store.nodes) (hat : a.path ≠ target) (hbt : b.path ≠ target)
    (heq : (if gone a.path then Path.rebase a.path source target else a.path)
      = if gone b.path then Path.rebase b.path source target else b.path) :
    a.path = b.path := by
  by_cases hma : gone a.path <;> by_cases hmb : gone b.path
  · rw [if_pos hma, if_pos hmb] at heq
    exact Path.rebase_inj (h.normal a ha) (h.normal b hb) hmove.sourceNormal hmove.targetNormal
      (hgone _ hma) (hgone _ hmb) heq
  · rw [if_pos hma, if_neg hmb] at heq
    exact absurd (hmove.eq_target_of_place_eq h hb (h.normal a ha) (hgone _ hma) heq) hbt
  · rw [if_neg hma, if_pos hmb] at heq
    exact absurd (hmove.eq_target_of_place_eq h ha (h.normal b hb) (hgone _ hmb) heq.symm) hat
  · rwa [if_neg hma, if_neg hmb] at heq

/-- Different nodes are carried to different places. -/
lemma place_inj (hmove : Movable store source target) (h : WellFormed store) {a b : Node}
    (ha : a ∈ store.nodes) (hb : b ∈ store.nodes) (hat : a.path ≠ target) (hbt : b.path ≠ target)
    (heq : place source target a.path = place source target b.path) : a.path = b.path :=
  hmove.inj_of_carried h (fun _ hmoves => hmoves) ha hb hat hbt heq

lemma isNormal_place (hmove : Movable store source target) (hpath : IsNormal path) :
    IsNormal (place source target path) := by
  by_cases hmoves : path = source ∨ Path.isBelow path source = true
  · rw [place_of_moves hmoves]
    exact Path.isNormal_rebase hpath hmove.sourceNormal hmove.targetNormal hmoves
  · rw [place_of_stays hmoves]
    exact hpath

/-- The directory above a place: the place of the directory above, which at the source is the one
above the target. -/
lemma parent?_place (hmove : Movable store source target) (h : WellFormed store)
    (hnode : node ∈ store.nodes) {up : String}
    (hup : Path.parent? (place source target node.path) = some up) :
    ∃ before, store.isDirectory before = true ∧ up = place source target before := by
  have hnormal := h.normal node hnode
  by_cases hmoves : node.path = source ∨ Path.isBelow node.path source = true
  · rw [place_of_moves hmoves] at hup
    by_cases hsource : node.path = source
    · rw [hsource, Path.rebase_self] at hup
      obtain ⟨above, habove, hdir⟩ := hmove.parent
      rw [hup, Option.some_inj] at habove
      subst habove
      refine ⟨up, hdir, (place_of_stays ?_).symm⟩
      intro hinside
      have hbelow := (Path.isBelow_iff_parent hmove.targetNormal hmove.sourceNormal).mpr
        ⟨up, hup, hinside⟩
      rw [hmove.outside] at hbelow
      exact Bool.noConfusion hbelow
    · have hbelow := hmoves.resolve_left hsource
      obtain ⟨before, hbefore, hinside⟩ :=
        (Path.isBelow_iff_parent hnormal hmove.sourceNormal).mp hbelow
      rw [Path.parent?_rebase hnormal hmove.sourceNormal hmove.targetNormal hbelow hbefore,
        Option.some_inj] at hup
      exact ⟨before, h.parents node hnode before hbefore, by rw [place_of_moves hinside, hup]⟩
  · rw [place_of_stays hmoves] at hup
    refine ⟨up, h.parents node hnode up hup, (place_of_stays ?_).symm⟩
    intro hinside
    exact hmoves (Or.inr ((Path.isBelow_iff_parent hnormal hmove.sourceNormal).mpr
      ⟨up, hup, hinside⟩))

end Movable

/-! ## The store after a move -/

/-- A node as a move leaves it. -/
def carried (source target : String) (now : Instant) (node : Node) : Node :=
  if movesWith source node then moved source target now node else node

lemma carried_path : (carried source target now node).path = place source target node.path := by
  by_cases hmoves : movesWith source node = true
  · rw [carried, if_pos hmoves, place_of_moves (movesWith_iff.mp hmoves)]
    rfl
  · rw [carried, if_neg hmoves, place_of_stays fun h => hmoves (movesWith_iff.mpr h)]

@[simp] lemma carried_id : (carried source target now node).id = node.id := by
  simp only [carried]
  split <;> rfl

@[simp] lemma carried_body : (carried source target now node).body = node.body := by
  simp only [carried]
  split <;> rfl

@[simp] lemma carried_permissions :
    (carried source target now node).permissions = node.permissions := by
  simp only [carried]
  split <;> rfl

/-- A node that moves gets the name that its new path gives it. -/
lemma accurate_carried (h : node.Accurate) : (carried source target now node).Accurate := by
  simp only [carried]
  split
  · exact ⟨rfl, h.size⟩
  · exact h

/-- The nodes after a move are those before it without the target, each carried. -/
lemma nodes_rename (hne : source ≠ target)
    (hrename : store.rename source target now = .ok after) :
    after.nodes
      = (store.nodes.filter fun node => node.path ≠ target).map (carried source target now) := by
  obtain ⟨_, _, _, _, _, _, _, hafter⟩ := (rename_eq_ok_iff hne).mp hrename
  rw [hafter]
  rfl

lemma mem_rename (hne : source ≠ target) (hrename : store.rename source target now = .ok after) :
    node ∈ after.nodes
      ↔ ∃ before ∈ store.nodes, before.path ≠ target ∧ carried source target now before = node := by
  simp only [nodes_rename hne hrename, List.mem_map, List.mem_filter, decide_eq_true_eq, and_assoc]

/-- **A move keeps the tree a tree.** -/
theorem WellFormed.rename (h : WellFormed store) (htarget : IsNormal target)
    (hrename : store.rename source target now = .ok after) : WellFormed after := by
  by_cases hne : source = target
  · rw [Store.rename, if_pos hne] at hrename
    exact pure_eq_ok_iff.mp hrename ▸ h
  have hmove := movable_of_rename h htarget hne hrename
  have hmem : ∀ {node}, node ∈ after.nodes ↔ _ := mem_rename hne hrename
  obtain ⟨_, _, _, _, _, _, _, hafter⟩ := (rename_eq_ok_iff hne).mp hrename
  have hnodes := nodes_rename hne hrename
  have hkept : ((store.nodes.filter fun node => node.path ≠ target).map Node.path).Nodup :=
    h.keys.sublist (List.filter_sublist.map Node.path)
  have hkeys : (after.nodes.map Node.path).Nodup := by
    rw [hnodes, List.map_map]
    refine List.Nodup.map_on ?_ (List.Nodup.of_map Node.path hkept)
    intro a ha b hb heq
    simp only [Function.comp_apply, carried_path] at heq
    simp only [List.mem_filter, decide_eq_true_eq] at ha hb
    have hpath := hmove.place_inj h ha.1 hb.1 ha.2 hb.2 heq
    exact List.inj_on_of_nodup_map h.keys ha.1 hb.1 hpath
  -- a directory is one at its new place, for the target is none
  have hdirectory : ∀ path, store.isDirectory path = true →
      after.isDirectory (place source target path) = true := by
    intro path hdir
    obtain ⟨found, hfound, hpath, hbody⟩ := (isDirectory_iff_mem h.keys).mp hdir
    have hfree : found.path ≠ target := by
      rintro hsame
      rw [← hpath, hsame, hmove.noDirectory] at hdir
      exact Bool.noConfusion hdir
    exact (isDirectory_iff_mem hkeys).mpr
      ⟨carried source target now found, hmem.mpr ⟨found, hfound, hfree, rfl⟩,
        by rw [carried_path, hpath], by rw [carried_body, hbody]⟩
  have hids : after.nodes.map Node.id
      = (store.nodes.filter fun node => node.path ≠ target).map Node.id := by
    rw [hnodes, List.map_map]
    exact List.map_congr_left fun _ _ => carried_id
  refine ⟨?_, ?_, hkeys, ?_, ?_, ?_, ?_⟩
  · have hroot : place source target "/" = "/" := by
      refine place_of_stays ?_
      rintro (hsource | hbelow)
      · exact hmove.notRoot hsource.symm
      · rw [Path.isBelow_root_left hmove.sourceNormal] at hbelow
        exact Bool.noConfusion hbelow
    exact hroot ▸ hdirectory "/" h.root
  · intro node hnode
    obtain ⟨before, hbefore, -, rfl⟩ := hmem.mp hnode
    rw [carried_path]
    exact hmove.isNormal_place (h.normal before hbefore)
  · intro node hnode up hup
    obtain ⟨before, hbefore, -, rfl⟩ := hmem.mp hnode
    rw [carried_path] at hup
    obtain ⟨above, hdir, rfl⟩ := hmove.parent?_place h hbefore hup
    exact hdirectory above hdir
  · rw [hids]
    exact h.ascending.sublist (List.filter_sublist.map Node.id)
  · intro node hnode
    obtain ⟨before, hbefore, -, rfl⟩ := hmem.mp hnode
    have hnext : after.nextId = store.nextId := by rw [hafter]
    rw [carried_id, hnext]
    exact h.fresh before hbefore
  · intro node hnode
    obtain ⟨before, hbefore, -, rfl⟩ := hmem.mp hnode
    exact accurate_carried (h.accurate before hbefore)

end VirtualShell.Store
