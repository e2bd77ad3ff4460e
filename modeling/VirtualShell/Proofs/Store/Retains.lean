import VirtualShell.Proofs.Store.Change

/-!
# Stores that keep their nodes

A store retains another if every node of the other is still where it was, with its number, its kind
and its time of creation; what a file holds and what a node shows may have changed.  Creating and
writing retain, and so do all commands but the two that take nodes away.
-/

namespace VirtualShell.Store

open Time (Instant)

/-- Every node is still there: the same number at the same path, of the same kind, created at the
same time. -/
def Retains (before after : Store) : Prop :=
  ∀ path node, before.get? path = some node →
    ∃ kept, after.get? path = some kept ∧ kept.id = node.id ∧ kept.kind = node.kind
      ∧ kept.created = node.created

variable {store middle after : Store} {path : String} {node : Node} {draft : Draft}
  {amendment : Amendment} {now : Instant}

namespace Retains

lemma refl : Retains store store := fun _ node hget => ⟨node, hget, rfl, rfl, rfl⟩

lemma trans (h : Retains store middle) (h' : Retains middle after) : Retains store after := by
  intro path node hget
  obtain ⟨mid, hmid, hid, hkind, hcreated⟩ := h path node hget
  obtain ⟨kept, hkept, hid', hkind', hcreated'⟩ := h' path mid hmid
  exact ⟨kept, hkept, hid'.trans hid, hkind'.trans hkind, hcreated'.trans hcreated⟩

/-- A directory stays a directory. -/
lemma isDirectory (h : Retains store after) (hdir : store.isDirectory path = true) :
    after.isDirectory path = true := by
  obtain ⟨node, hget, hbody⟩ := isDirectory_iff.mp hdir
  obtain ⟨kept, hkept, -, hkind, -⟩ := h path node hget
  rw [Store.isDirectory, hkept, Option.any_some, Node.isDirectory, hkind, decide_eq_true_iff,
    Node.kind, hbody]
  rfl

end Retains

/-- A new node stands where there was none. -/
lemma retains_create (h : store.create draft now = .ok (node, after)) : Retains store after := by
  obtain ⟨hfree, -, hresult⟩ := create_eq_ok_iff.mp h
  obtain rfl : after = (store.insert draft now).2 := congrArg Prod.snd hresult
  intro path old hget
  have hne : path ≠ draft.path := by
    rintro rfl
    simp [hfree] at hget
  exact ⟨old, by rwa [get?_insert_of_ne hne], rfl, rfl, rfl⟩

lemma retains_upsert (h : store.upsert draft now = .ok (node, after)) : Retains store after := by
  obtain ⟨hthere, hbody, hother, hold⟩ := get?_upsert h
  intro path old hget
  by_cases hpath : path = draft.path
  · subst hpath
    obtain ⟨hkind, hnode⟩ := hold old hget
    refine ⟨node, hthere, ?_, ?_, ?_⟩
    · rw [hnode, Node.takeOver_id]
    · rw [Node.kind, hbody, Node.kind, hkind]
    · rw [hnode, Node.takeOver_created]
  · exact ⟨old, by rw [hother path hpath, hget], rfl, rfl, rfl⟩

lemma retains_update (h : store.update path amendment now = .ok (node, after)) :
    Retains store after := by
  obtain ⟨old, made, hold, hmade, hresult⟩ := update_eq_ok_iff.mp h
  obtain ⟨hid, hpath, -, hkind, hcreated⟩ := kept_of_amended hmade
  obtain rfl := congrArg Prod.snd hresult
  intro other found hfound
  by_cases hother : other = path
  · subst hother
    obtain rfl : old = found := Option.some_inj.mp (hold.symm.trans hfound)
    exact ⟨_, get?_replace_self (hpath.trans (path_of_get? hold)) hold, hid, hkind, hcreated⟩
  · refine ⟨found, ?_, rfl, rfl, rfl⟩
    rw [get?_replace_of_ne, hfound]
    change other ≠ made.path
    rwa [hpath, path_of_get? hold]

end VirtualShell.Store
