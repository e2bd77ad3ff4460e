import VirtualShell.Proofs.Path.Unspaced
import VirtualShell.Proofs.Store.Run

/-!
# Namespaces without blanks

No path of a namespace has a blank in it as long as none comes in with a new node or with the target
of a move.  What stands at a place that is there already is of no account, so for most operations it
is enough to know which places they leave free (`Unspaced.of_free`).
-/

namespace VirtualShell.Store

open Time (Instant)

variable {store after : Store} {node : Node} {draft : Draft} {path source target : String}
  {now : Instant}

/-- No path has a blank in it. -/
def Unspaced (store : Store) : Prop := ∀ node ∈ store.nodes, Text.Unspaced node.path.toList

lemma unspaced_new (limits : Limits) (now : Instant) : Unspaced (new limits now) := by
  have hpaths : ∀ path ∈ (new limits now).nodes.map Node.path, Text.Unspaced path.toList := by
    simp only [new_nodes, List.map_cons, List.map_nil]
    decide
  exact fun node hnode => hpaths node.path (List.mem_map_of_mem hnode)

lemma unspaced_directory (h : Text.Unspaced path.toList) :
    Text.Unspaced (Draft.directory path).path.toList := Path.unspaced_normalize h

lemma unspaced_file (content : String) (h : Text.Unspaced path.toList) :
    Text.Unspaced (Draft.file path content).path.toList := Path.unspaced_normalize h

namespace Unspaced

variable (h : Unspaced store)

include h

lemma of_get? (hget : store.get? path = some node) : Text.Unspaced path.toList :=
  path_of_get? hget ▸ h node (mem_of_get? hget)

/-- Nothing has come to stand at a path with a blank in it. -/
lemma of_free (hfree : ∀ path, ¬ Text.Unspaced path.toList → store.get? path = none →
    after.get? path = none) : Unspaced after := by
  intro node hnode
  by_contra hblank
  have hbefore : store.get? node.path = none :=
    get?_eq_none_iff.mpr fun old hold heq => hblank (heq ▸ h old hold)
  exact get?_eq_none_iff.mp (hfree node.path hblank hbefore) node hnode rfl

lemma create (hdraft : Text.Unspaced draft.path.toList)
    (hcreate : store.create draft now = .ok (node, after)) : Unspaced after := by
  obtain ⟨-, -, hresult⟩ := create_eq_ok_iff.mp hcreate
  obtain rfl : after = (store.insert draft now).2 := congrArg Prod.snd hresult
  refine h.of_free fun path hblank hnone => ?_
  have hne : path ≠ draft.path := fun heq => hblank (heq ▸ hdraft)
  rwa [get?_insert_of_ne hne]

lemma upsert (hdraft : Text.Unspaced draft.path.toList)
    (hupsert : store.upsert draft now = .ok (node, after)) : Unspaced after :=
  h.of_free fun path hblank hnone => by
    rwa [(get?_upsert hupsert).2.2.1 path fun heq => hblank (heq ▸ hdraft)]

lemma update {amendment : Amendment}
    (hupdate : store.update path amendment now = .ok (node, after)) : Unspaced after := by
  obtain ⟨old, made, -, -, hresult⟩ := update_eq_ok_iff.mp hupdate
  obtain rfl := congrArg Prod.snd hresult
  exact h.of_free fun other _ hnone => by rw [get?_replace, hnone, Option.map_none]

lemma delete (hdelete : store.delete path = some after) : Unspaced after :=
  fun node hnode => h node (mem_of_mem_delete hdelete hnode)

lemma rename (htarget : Text.Unspaced target.toList)
    (hrename : store.rename source target now = .ok after) : Unspaced after := by
  by_cases hne : source = target
  · rw [Store.rename, if_pos hne] at hrename
    exact pure_eq_ok_iff.mp hrename ▸ h
  · intro node hnode
    obtain ⟨before, hbefore, -, rfl⟩ := (mem_rename hne hrename).mp hnode
    rw [carried_path, place]
    split
    · exact Path.unspaced_rebase source (h before hbefore) htarget
    · exact h before hbefore

end Unspaced

end VirtualShell.Store
