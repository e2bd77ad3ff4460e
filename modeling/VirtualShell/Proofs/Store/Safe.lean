import VirtualShell.Proofs.Permissions
import VirtualShell.Proofs.Store.Retains
import VirtualShell.Proofs.Store.Run

/-!
# Safe stores

A safe store is a tree whose nodes show permissions of their kind.  It is what the commands of a
shell keep, and it is kept by every change that gives only permissions which display
(`Safe.of_change`).

An edit of a safe store is good if the store after it is safe and retains the one before (`Edited`).
Both are proved in one go, edit by edit, and edits compose (`Edited.trans`).
-/

namespace VirtualShell.Store

open Time (Instant)

open VirtualShell.Path (IsNormal)

/-- A tree of nodes with proper permissions. -/
structure Safe (store : Store) : Prop where
  tree : WellFormed store
  shown : Shows Displays store

variable {store middle after : Store} {path : String} {node : Node} {now : Instant}

theorem Safe.of_change (h : Safe store) (hchange : Change Displays store after) : Safe after :=
  ⟨h.tree.of_change hchange, h.shown.of_change hchange⟩

theorem safe_new (limits : Limits) (now : Instant) : Safe (new limits now) := by
  refine ⟨wellFormed_new limits now, ?_⟩
  intro node hnode
  rw [new_nodes] at hnode
  revert node
  simp [Body.kind, displays_directoryPermissions, displays_filePermissions]

/-! ## Edits -/

/-- What a good edit leaves. -/
structure Edited (before after : Store) : Prop where
  safe : Safe after
  retains : Retains before after

namespace Edited

lemma refl (h : Safe store) : Edited store store := ⟨h, .refl⟩

lemma trans (h : Edited store middle) (h' : Edited middle after) : Edited store after :=
  ⟨h'.safe, h.retains.trans h'.retains⟩

end Edited

namespace Safe

variable {text content : String}

/-- What a safe store shows at a path. -/
lemma displays_of_get? (h : Safe store) (hget : store.get? path = some node) :
    Displays node.body.kind node.permissions := h.shown node (mem_of_get? hget)

/-! ## The drafts that commands make -/

lemma createDirectory (h : Safe store)
    (hcreate : store.create (.directory path) now = .ok (node, after)) : Edited store after :=
  ⟨h.of_change (change_of_create (.directory path) (Path.isNormal_normalize path)
    displays_directoryPermissions hcreate), retains_create hcreate⟩

lemma createFile (h : Safe store)
    (hcreate : store.create (.file path content) now = .ok (node, after)) : Edited store after :=
  ⟨h.of_change (change_of_create (.file path content) (Path.isNormal_normalize path)
    displays_filePermissions hcreate), retains_create hcreate⟩

lemma upsertFile (h : Safe store)
    (hupsert : store.upsert (.file path content) now = .ok (node, after)) : Edited store after :=
  ⟨h.of_change (change_of_upsert (.file path content) (Path.isNormal_normalize path)
    displays_filePermissions hupsert), retains_upsert hupsert⟩

/-- Permissions may be set where they display the kind of the node that is there. -/
lemma setPermissions (h : Safe store)
    (hdisplays : ∀ old, store.get? path = some old → Displays old.body.kind text)
    (hupdate : store.update path ⟨none, some text⟩ now = .ok (node, after)) :
    Edited store after := by
  refine ⟨h.of_change (change_of_update ?_ hupdate), retains_update hupdate⟩
  intro old shown hold hshown
  obtain rfl : text = shown := by simpa using hshown
  exact hdisplays old hold

lemma touch (h : Safe store) (hupdate : store.update path {} now = .ok (node, after)) :
    Edited store after :=
  ⟨h.of_change (change_of_update (fun _ _ _ hnone => by simp at hnone) hupdate),
    retains_update hupdate⟩

lemma delete (h : Safe store) (hdelete : store.delete path = some after) : Safe after :=
  h.of_change (.delete hdelete)

lemma rename {target : String} (h : Safe store) (htarget : IsNormal target)
    (hrename : store.rename path target now = .ok after) : Safe after :=
  h.of_change (.rename htarget hrename)

end Safe

end VirtualShell.Store
