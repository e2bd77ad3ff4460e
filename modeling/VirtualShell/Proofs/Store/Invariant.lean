import Mathlib.Data.List.Induction
import Mathlib.Data.List.Nodup
import VirtualShell.Proofs.Path.Tree
import VirtualShell.Proofs.Store.Outcome

/-!
# The invariant of a store

A store is a list of nodes and nothing in its type makes a tree of it.  `WellFormed` is what does:
paths are distinct and in normal form, the root is a directory, the parent of every other node is
there and is a directory, numbers ascend and stay below the next one, and what a node says of itself
is right (`Node.Accurate`).

Two facts are drawn from it and used everywhere.  All ancestors of a node are directories that are
there (`WellFormed.isDirectory_of_isBelow`), by going up from parent to parent; hence nothing lies
below a path that is not occupied, nor below a file.  And a node is what `get?` finds at its path
(`WellFormed.get?_eq_some_iff`), so the list of nodes is a map with paths for keys.

The four changes keep the invariant, in rising order of difficulty: replacing a node by one of the
same kind, inserting a node under a directory, removing a subtree, and moving one.
-/

namespace VirtualShell

open Time (Instant)

open VirtualShell.Path (IsNormal AreSegments spell)

/-- The name of a node is the last segment of its path, and its size is that of its body. -/
structure Node.Accurate (node : Node) : Prop where
  name : node.name = Path.fileName node.path
  size : node.size = node.body.size

namespace Node.Accurate

variable {node made : Node}

lemma takeOver {body : Body} {now : Instant} (h : node.Accurate) :
    (node.takeOver now body).Accurate := by
  cases body with
  | file content => exact ⟨h.name, rfl⟩
  | directory => exact ⟨h.name, h.size⟩

lemma amended {store : Store} {content : Option String} (h : node.Accurate)
    (hmade : store.amended node content = .ok made) : made.Accurate := by
  rcases Store.amended_eq_ok_iff.mp hmade with ⟨rfl, -⟩ | ⟨_, _, -, -, -, rfl⟩
  · exact h
  · exact ⟨h.name, rfl⟩

end Node.Accurate

namespace Store

/-- The nodes of a store form a tree of directories and files. -/
structure WellFormed (store : Store) : Prop where
  root : store.isDirectory "/" = true
  normal : ∀ node ∈ store.nodes, IsNormal node.path
  /-- No two nodes have the same path. -/
  keys : (store.nodes.map Node.path).Nodup
  parents : ∀ node ∈ store.nodes, ∀ up,
    Path.parent? node.path = some up → store.isDirectory up = true
  ascending : (store.nodes.map Node.id).Pairwise (· < ·)
  /-- The next number has not been given yet. -/
  fresh : ∀ node ∈ store.nodes, node.id < store.nextId
  accurate : ∀ node ∈ store.nodes, node.Accurate

variable {store after : Store} {path : String} {node old : Node} {draft : Draft} {now : Instant}

/-! ## A map with paths for keys -/

/-- Distinct paths make `get?` the look-up of a map. -/
lemma get?_eq_some_iff_of_nodup (hkeys : (store.nodes.map Node.path).Nodup) :
    store.get? path = some node ↔ node ∈ store.nodes ∧ node.path = path := by
  constructor
  · exact fun h => ⟨mem_of_get? h, path_of_get? h⟩
  · rintro ⟨hmem, rfl⟩
    obtain ⟨found, hfound⟩ := exists_get?_of_mem hmem
    have hsame : found = node :=
      List.inj_on_of_nodup_map hkeys (mem_of_get? hfound) hmem (path_of_get? hfound)
    rw [hfound, hsame]

lemma isDirectory_iff_mem (hkeys : (store.nodes.map Node.path).Nodup) :
    store.isDirectory path = true
      ↔ ∃ node ∈ store.nodes, node.path = path ∧ node.body = .directory := by
  simp only [isDirectory_iff, get?_eq_some_iff_of_nodup hkeys, and_assoc]

namespace WellFormed

theorem get?_eq_some_iff (h : WellFormed store) :
    store.get? path = some node ↔ node ∈ store.nodes ∧ node.path = path :=
  get?_eq_some_iff_of_nodup h.keys

lemma get?_of_mem (h : WellFormed store) (hmem : node ∈ store.nodes) :
    store.get? node.path = some node := h.get?_eq_some_iff.mpr ⟨hmem, rfl⟩

lemma isNormal_of_get? (h : WellFormed store) (hget : store.get? path = some node) :
    IsNormal path := path_of_get? hget ▸ h.normal node (mem_of_get? hget)

lemma isNormal_of_contains (h : WellFormed store) (hpath : store.contains path = true) :
    IsNormal path := by
  obtain ⟨node, hget⟩ := contains_eq_true_iff.mp hpath
  exact h.isNormal_of_get? hget

lemma isNormal_of_isDirectory (h : WellFormed store) (hdir : store.isDirectory path = true) :
    IsNormal path := by
  obtain ⟨node, hget, -⟩ := isDirectory_iff.mp hdir
  exact h.isNormal_of_get? hget

/-! ## Ancestors -/

/-- The directories above a node, from the nearest upwards. -/
lemma isDirectory_of_beginning (h : WellFormed store) {segments : List (List Char)}
    (rest : List (List Char)) :
    ∀ node ∈ store.nodes, AreSegments (segments ++ rest) → node.path = spell (segments ++ rest)
      → rest ≠ [] → store.isDirectory (spell segments) = true := by
  induction rest using List.reverseRecOn with
  | nil => exact fun _ _ _ _ hnil => absurd rfl hnil
  | append_singleton front last ih =>
      intro node hnode hall hpath _
      rw [← List.append_assoc] at hall hpath
      have hup := h.parents node hnode (spell (segments ++ front))
        (hpath ▸ Path.parent?_spell_concat hall)
      by_cases hfront : front = []
      · simpa [hfront] using hup
      · obtain ⟨above, hget, -⟩ := isDirectory_iff.mp hup
        exact ih above (mem_of_get? hget) (Path.areSegments_append.mp hall).1 (path_of_get? hget)
          hfront

/-- **Whatever has a node below it is a directory that is there.** -/
theorem isDirectory_of_isBelow (h : WellFormed store) (hnode : node ∈ store.nodes)
    (hpath : IsNormal path) (hbelow : Path.isBelow node.path path = true) :
    store.isDirectory path = true := by
  obtain ⟨segments, hsegments, rfl⟩ := Path.isNormal_iff_spell.mp hpath
  obtain ⟨rest, hall, heq⟩ :=
    (Path.eq_or_isBelow_iff (h.normal node hnode) hsegments).mp (Or.inr hbelow)
  refine h.isDirectory_of_beginning rest node hnode hall heq ?_
  rintro rfl
  rw [heq, List.append_nil, Path.isBelow_irrefl hpath] at hbelow
  exact Bool.noConfusion hbelow

/-- Nothing lies below a path that is not occupied. -/
lemma not_isBelow_of_get?_eq_none (h : WellFormed store) (hpath : IsNormal path)
    (hnone : store.get? path = none) (hnode : node ∈ store.nodes) :
    Path.isBelow node.path path = false := by
  rw [Bool.eq_false_iff]
  intro hbelow
  obtain ⟨found, hget, -⟩ := isDirectory_iff.mp (h.isDirectory_of_isBelow hnode hpath hbelow)
  simp [hnone] at hget

end WellFormed

/-! ## Replacing a node -/

lemma mem_replace {other : Node} (h : other ∈ (store.replace node).nodes) :
    other = node ∨ other ∈ store.nodes := by
  obtain ⟨before, hbefore, rfl⟩ := List.mem_map.mp h
  by_cases hpath : before.path = node.path
  · exact Or.inl (if_pos hpath)
  · rw [if_neg hpath]
    exact Or.inr hbefore

lemma replace_nodes_map_path :
    (store.replace node).nodes.map Node.path = store.nodes.map Node.path := by
  rw [replace, List.map_map]
  refine List.map_congr_left fun other _ => ?_
  by_cases hpath : other.path = node.path <;> simp [hpath]

lemma get?_replace :
    (store.replace node).get? path
      = (store.get? path).map fun other => if other.path = node.path then node else other := by
  have hsame : (fun other : Node => decide (other.path = path))
      ∘ (fun other => if other.path = node.path then node else other)
        = fun other => decide (other.path = path) := by
    funext other
    by_cases hpath : other.path = node.path <;> simp [hpath]
  rw [get?, replace, List.find?_map, hsame, get?]

lemma get?_replace_self (hpath : node.path = path) (h : store.get? path = some old) :
    (store.replace node).get? path = some node := by
  rw [get?_replace, h, Option.map_some, if_pos ((path_of_get? h).trans hpath.symm)]

lemma get?_replace_of_ne (h : path ≠ node.path) :
    (store.replace node).get? path = store.get? path := by
  rw [get?_replace]
  cases hget : store.get? path with
  | none => rfl
  | some other =>
      have hother : other.path ≠ node.path := by
        rw [path_of_get? hget]
        exact h
      rw [Option.map_some, if_neg hother]

/-- A replacement of the same kind leaves every directory one and makes none. -/
lemma isDirectory_replace (h : store.get? node.path = some old)
    (hkind : node.body.kind = old.body.kind) :
    (store.replace node).isDirectory path = store.isDirectory path := by
  by_cases hpath : path = node.path
  · subst hpath
    simp only [isDirectory, get?_replace_self rfl h, h, Option.any_some]
    exact Node.isDirectory_congr hkind
  · simp [isDirectory, get?_replace_of_ne hpath]

namespace WellFormed

/-- An accurate node may take the place of another that has its number, its path and its kind. -/
theorem replace (h : WellFormed store) (hold : store.get? node.path = some old)
    (hid : node.id = old.id) (hkind : node.body.kind = old.body.kind)
    (haccurate : node.Accurate) : WellFormed (store.replace node) := by
  -- every node of the new store stands for one of the old store with its path and number
  have horigin : ∀ other ∈ (store.replace node).nodes,
      ∃ before ∈ store.nodes, other.path = before.path ∧ other.id = before.id := by
    intro other hother
    obtain ⟨before, hbefore, rfl⟩ := List.mem_map.mp hother
    by_cases hpath : before.path = node.path
    · have hsame : before = old := by
        have hget := h.get?_of_mem hbefore
        rw [hpath, hold, Option.some_inj] at hget
        exact hget.symm
      subst hsame
      exact ⟨before, hbefore, by simp [hpath], by simp [hpath, hid]⟩
    · exact ⟨before, hbefore, by simp [hpath], by simp [hpath]⟩
  have hids : (store.replace node).nodes.map Node.id = store.nodes.map Node.id := by
    rw [Store.replace, List.map_map]
    refine List.map_congr_left fun before hbefore => ?_
    by_cases hpath : before.path = node.path
    · have hget := h.get?_of_mem hbefore
      rw [hpath, hold, Option.some_inj] at hget
      simp [hpath, hid, hget]
    · simp [hpath]
  refine ⟨?_, ?_, ?_, ?_, ?_, ?_, ?_⟩
  · rw [isDirectory_replace hold hkind]
    exact h.root
  · intro other hother
    obtain ⟨before, hbefore, hpath, -⟩ := horigin other hother
    exact hpath ▸ h.normal before hbefore
  · rw [replace_nodes_map_path]
    exact h.keys
  · intro other hother up hup
    obtain ⟨before, hbefore, hpath, -⟩ := horigin other hother
    rw [isDirectory_replace hold hkind]
    exact h.parents before hbefore up (hpath ▸ hup)
  · rw [hids]
    exact h.ascending
  · intro other hother
    obtain ⟨before, hbefore, -, hsame⟩ := horigin other hother
    rw [hsame, replace_nextId]
    exact h.fresh before hbefore
  · intro other hother
    rcases mem_replace hother with rfl | hbefore
    · exact haccurate
    · exact h.accurate other hbefore

end WellFormed

/-! ## Inserting a node -/

lemma get?_insert_of_ne (h : path ≠ draft.path) :
    (store.insert draft now).2.get? path = store.get? path := by
  rw [get?, insert_nodes, List.find?_append, List.find?_singleton, get?]
  simp [Ne.symm h]

lemma get?_insert_self (h : store.get? draft.path = none) :
    (store.insert draft now).2.get? draft.path = some (store.insert draft now).1 := by
  rw [get?] at h
  rw [get?, insert_nodes, List.find?_append, h, List.find?_singleton]
  simp

/-- Inserting a node at a free path takes no directory away. -/
lemma isDirectory_insert (hfree : store.get? draft.path = none)
    (h : store.isDirectory path = true) : (store.insert draft now).2.isDirectory path = true := by
  have hne : path ≠ draft.path := by
    rintro rfl
    simp [isDirectory, hfree] at h
  rw [isDirectory, get?_insert_of_ne hne]
  exact h

namespace WellFormed

/-- A node may be inserted at a free path under a directory. -/
theorem insert (h : WellFormed store) (hnormal : IsNormal draft.path)
    (hfree : store.get? draft.path = none) (hparent : store.checkParent draft.path = .ok ()) :
    WellFormed (store.insert draft now).2 := by
  have hpath : ∀ node ∈ store.nodes, node.path ≠ draft.path := get?_eq_none_iff.mp hfree
  refine ⟨isDirectory_insert hfree h.root, ?_, ?_, ?_, ?_, ?_, ?_⟩
  · intro node hnode
    rcases List.mem_append.mp hnode with hnode | hnode
    · exact h.normal node hnode
    · rw [List.mem_singleton.mp hnode]
      exact hnormal
  · rw [insert_nodes, List.map_append, List.nodup_append]
    refine ⟨h.keys, by simp, ?_⟩
    simpa using hpath
  · intro node hnode up hup
    refine isDirectory_insert hfree ?_
    rcases List.mem_append.mp hnode with hnode | hnode
    · exact h.parents node hnode up hup
    · rw [List.mem_singleton.mp hnode] at hup
      change Path.parent? draft.path = some up at hup
      obtain ⟨found, hfound, hdir⟩ := checkParent_eq_ok_iff.mp hparent
      rw [hup, Option.some_inj] at hfound
      exact hfound ▸ hdir
  · rw [insert_nodes, List.map_append, List.pairwise_append]
    refine ⟨h.ascending, by simp, ?_⟩
    have hbelow : ∀ node ∈ store.nodes, node.id < store.nextId := h.fresh
    simpa [Store.insert] using hbelow
  · intro node hnode
    rw [insert_nextId]
    rcases List.mem_append.mp hnode with hnode | hnode
    · exact Nat.lt_succ_of_lt (h.fresh node hnode)
    · rw [List.mem_singleton.mp hnode]
      exact Nat.lt_succ_self store.nextId
  · intro node hnode
    rcases List.mem_append.mp hnode with hnode | hnode
    · exact h.accurate node hnode
    · rw [List.mem_singleton.mp hnode]
      exact ⟨rfl, rfl⟩

end WellFormed

/-! ## Removing a subtree -/

/-- Whether a path stays when the subtree at another is removed. -/
def staysWithout (path gone : String) : Bool := path ≠ gone && !Path.isBelow path gone

lemma staysWithout_eq_false_iff {gone : String} :
    staysWithout path gone = false ↔ path = gone ∨ Path.isBelow path gone = true := by
  by_cases hpath : path = gone <;> simp [staysWithout, hpath]

lemma get?_delete {gone : String} (h : store.delete gone = some after) :
    after.get? path = if staysWithout path gone then store.get? path else none := by
  obtain ⟨-, -, rfl⟩ := delete_eq_some_iff.mp h
  change (store.nodes.filter fun node => staysWithout node.path gone).find? _ = _
  rw [List.find?_filter]
  by_cases hstays : staysWithout path gone = true
  · rw [if_pos hstays, get?]
    congr 1
    funext node
    by_cases hnode : node.path = path <;> simp [hnode, hstays]
  · rw [if_neg hstays, List.find?_eq_none]
    intro node _ hnode
    simp only [decide_eq_true_eq] at hnode
    exact hstays (hnode.2 ▸ hnode.1)

namespace WellFormed

/-- A subtree may be removed as a whole: a node that stays has its parent stay too. -/
theorem delete (h : WellFormed store) (hdelete : store.delete path = some after) :
    WellFormed after := by
  obtain ⟨hroot, hcontains, hafter⟩ := delete_eq_some_iff.mp hdelete
  have hpath : IsNormal path := h.isNormal_of_contains hcontains
  have hnodes : after.nodes = store.nodes.filter fun node => staysWithout node.path path := by
    rw [hafter]
    rfl
  have hsub : after.nodes.Sublist store.nodes := hnodes ▸ List.filter_sublist
  have hkeep : ∀ up, staysWithout up path = true → store.isDirectory up = true
      → after.isDirectory up = true := by
    intro up hstays hup
    rw [isDirectory, get?_delete hdelete, if_pos hstays]
    exact hup
  refine ⟨?_, ?_, ?_, ?_, ?_, ?_, ?_⟩
  · refine hkeep "/" ?_ h.root
    simp [staysWithout, Ne.symm hroot, Path.isBelow_root_left hpath]
  · exact fun node hnode => h.normal node (hsub.subset hnode)
  · exact h.keys.sublist (hsub.map Node.path)
  · intro node hnode up hup
    have hmem : node ∈ store.nodes := hsub.subset hnode
    rw [hnodes, List.mem_filter] at hnode
    refine hkeep up ?_ (h.parents node hmem up hup)
    by_contra hgone
    -- a parent that goes takes the node with it
    have hbelow : Path.isBelow node.path path = true :=
      (Path.isBelow_iff_parent (h.normal node hmem) hpath).mpr
        ⟨up, hup, staysWithout_eq_false_iff.mp (Bool.eq_false_iff.mpr hgone)⟩
    simp [staysWithout, hbelow] at hnode
  · exact h.ascending.sublist (hsub.map Node.id)
  · intro node hnode
    have hlimit : after.nextId = store.nextId := by rw [hafter]
    rw [hlimit]
    exact h.fresh node (hsub.subset hnode)
  · exact fun node hnode => h.accurate node (hsub.subset hnode)

end WellFormed

end Store

end VirtualShell
