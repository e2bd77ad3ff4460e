import VirtualShell.Proofs.Store.Move

/-!
# One step of a store

`Change` lists the ways in which an operation can leave a store: as it was, with a node inserted,
with a node replaced, without a subtree, or with a subtree moved.  Each way carries what the
operation has checked, and no proof behind this module looks into an operation again.

**From operations to changes.**  `change_of_create` to `change_of_rename` read the five operations,
and the caller answers for what no operation checks: that paths are in normal form, and which
permissions go with which kind of node.  The second is left open as `may`, so that one relation
serves the tree alone and the tree with its permissions.

**From changes to invariants.**  Each of `WellFormed.of_change`, `Fits.of_change` and
`Shows.of_change` is one case a constructor.
-/

namespace VirtualShell.Store

open Time (Instant)

open VirtualShell.Path (IsNormal)

/-- What one operation can do to a store; `may` says which permissions a node of a kind may be
given. -/
inductive Change (may : NodeKind → String → Prop) (store : Store) : Store → Prop where
  | stay : Change may store store
  | insert {draft : Draft} {now : Instant} (normal : IsNormal draft.path)
      (free : store.get? draft.path = none) (room : store.checkNew draft = .ok ())
      (shows : may draft.body.kind draft.permissions) :
      Change may store (store.insert draft now).2
  | replace {node : Node} (old : Node) (found : store.get? node.path = some old)
      (id : node.id = old.id) (kind : node.body.kind = old.body.kind)
      (accurate : old.Accurate → node.Accurate)
      (fits : node.body = old.body ∨ node.body.size ≤ store.limits.fileSize)
      (shows : node.permissions = old.permissions ∨ may node.body.kind node.permissions) :
      Change may store (store.replace node)
  | delete {path : String} {after : Store} (gone : store.delete path = some after) :
      Change may store after
  | rename {source target : String} {now : Instant} {after : Store} (normal : IsNormal target)
      (moved : store.rename source target now = .ok after) : Change may store after

variable {may : NodeKind → String → Prop} {store after : Store} {path : String} {node : Node}
  {draft : Draft} {now : Instant}

/-! ## The operations -/

lemma change_of_create (draft : Draft) (hnormal : IsNormal draft.path)
    (hmay : may draft.body.kind draft.permissions)
    (h : store.create draft now = .ok (node, after)) : Change may store after := by
  obtain ⟨hfree, hroom, hresult⟩ := create_eq_ok_iff.mp h
  obtain rfl : after = (store.insert draft now).2 := congrArg Prod.snd hresult
  exact .insert hnormal hfree hroom hmay

lemma change_of_upsert (draft : Draft) (hnormal : IsNormal draft.path)
    (hmay : may draft.body.kind draft.permissions)
    (h : store.upsert draft now = .ok (node, after)) : Change may store after := by
  rcases upsert_eq_ok_iff.mp h with
    ⟨hfree, hroom, hresult⟩ | ⟨old, hold, hkind, hfits, hresult⟩
  · obtain rfl : after = (store.insert draft now).2 := congrArg Prod.snd hresult
    exact .insert hnormal hfree hroom hmay
  · obtain rfl : after = store.replace (old.takeOver now draft.body) :=
      congrArg Prod.snd hresult
    have hbody : (old.takeOver now draft.body).body = draft.body := Node.takeOver_body hkind
    have hfound := get?_path_of_get? hold
    refine .replace old (by rwa [Node.takeOver_path]) Node.takeOver_id (by rw [hbody, hkind])
      (·.takeOver) ?_ (Or.inl Node.takeOver_permissions)
    rw [hbody]
    cases hdraft : draft.body with
    | file content => exact Or.inr (hfits content hdraft)
    | directory =>
        rw [hdraft] at hkind
        exact Or.inl (Body.kind_eq_directory_iff.mp hkind).symm

/-- An amendment answers for its permissions only where there is a node to get them. -/
lemma change_of_update {amendment : Amendment}
    (hmay : ∀ old permissions, store.get? path = some old
      → amendment.permissions = some permissions → may old.body.kind permissions)
    (h : store.update path amendment now = .ok (node, after)) : Change may store after := by
  obtain ⟨old, made, hold, hmade, hresult⟩ := update_eq_ok_iff.mp h
  obtain ⟨hid, hpath, -, hkind, -⟩ := kept_of_amended hmade
  obtain rfl := congrArg Prod.snd hresult
  have hfound : store.get? made.path = some old := by
    rw [hpath]
    exact get?_path_of_get? hold
  refine .replace old hfound hid hkind ?_ ?_ ?_
  · intro haccurate
    have hmiddle := haccurate.amended hmade
    exact ⟨hmiddle.name, hmiddle.size⟩
  · rcases amended_eq_ok_iff.mp hmade with ⟨rfl, -⟩ | ⟨_, _, -, -, hfits, rfl⟩
    · exact Or.inl rfl
    · exact Or.inr hfits
  · cases hpermissions : amendment.permissions with
    | none => exact Or.inl rfl
    | some permissions =>
        refine Or.inr ?_
        rw [hkind]
        exact hmay old permissions hold hpermissions

/-! ## One path at a time -/

/-- After an `upsert` the node that it answers stands at the path of the draft, with its body; a
node that has been there has taken the body over. -/
lemma get?_upsert (h : store.upsert draft now = .ok (node, after)) :
    after.get? draft.path = some node ∧ node.body = draft.body
      ∧ (∀ other, other ≠ draft.path → after.get? other = store.get? other)
      ∧ ∀ old, store.get? draft.path = some old
          → old.body.kind = draft.body.kind
            ∧ node = old.takeOver now draft.body := by
  rcases upsert_eq_ok_iff.mp h with
    ⟨hfree, -, hresult⟩ | ⟨old, hold, hkind, -, hresult⟩
  · obtain ⟨rfl, rfl⟩ := Prod.mk.injEq .. ▸ hresult
    refine ⟨get?_insert_self hfree, rfl, fun other hother => get?_insert_of_ne hother, ?_⟩
    intro old hold
    simp [hfree] at hold
  · obtain ⟨rfl, rfl⟩ := Prod.mk.injEq .. ▸ hresult
    have hpath : (old.takeOver now draft.body).path = draft.path := by
      rw [Node.takeOver_path, path_of_get? hold]
    refine ⟨get?_replace_self hpath hold, Node.takeOver_body hkind, ?_, ?_⟩
    · intro other hother
      exact get?_replace_of_ne (hpath ▸ hother)
    · intro found hfound
      rw [hold, Option.some_inj] at hfound
      exact hfound ▸ ⟨hkind, rfl⟩

/-- A change of permissions alone never fails where there is a node. -/
lemma update_permissions {old : Node} (hold : store.get? path = some old) (permissions : String) :
    store.update path ⟨none, some permissions⟩ now
      = .ok ({ old with permissions := permissions, updated := now },
          store.replace { old with permissions := permissions, updated := now }) := by
  refine update_eq_ok_iff.mpr ⟨old, old, hold, ?_, rfl⟩
  exact amended_eq_ok_iff.mpr (Or.inl ⟨rfl, Or.inr rfl⟩)

/-! ## The tree -/

lemma Change.limits (h : Change may store after) : after.limits = store.limits := by
  cases h with
  | stay => rfl
  | insert => rfl
  | replace => rfl
  | delete gone => rw [(delete_eq_some_iff.mp gone).2.2]
  | @rename source target now _ _ moved =>
      by_cases hne : source = target
      · rw [Store.rename, if_pos hne] at moved
        rw [pure_eq_ok_iff.mp moved]
      · obtain ⟨_, _, _, _, _, _, _, hafter⟩ := (rename_eq_ok_iff hne).mp moved
        rw [hafter]

theorem WellFormed.of_change (h : WellFormed store) (hchange : Change may store after) :
    WellFormed after := by
  cases hchange with
  | stay => exact h
  | insert normal free room => exact h.insert normal free (checkNew_eq_ok_iff.mp room).1
  | replace old found id kind accurate =>
      exact h.replace found id kind (accurate (h.accurate old (mem_of_get? found)))
  | delete gone => exact h.delete gone
  | rename normal moved => exact h.rename normal moved

/-! ## The nodes one by one -/

/-- Every file is within the limit on files.  The seed is planted without being checked, so this is
a fact about a store only if the seed fits. -/
def Fits (store : Store) : Prop :=
  ∀ node ∈ store.nodes, ∀ content, node.body = .file content
    → content.utf8ByteSize ≤ store.limits.fileSize

/-- Every node has permissions that go with its kind. -/
def Shows (may : NodeKind → String → Prop) (store : Store) : Prop :=
  ∀ node ∈ store.nodes, may node.body.kind node.permissions

lemma mem_of_mem_delete (hdelete : store.delete path = some after) (h : node ∈ after.nodes) :
    node ∈ store.nodes := by
  rw [(delete_eq_some_iff.mp hdelete).2.2] at h
  exact (List.mem_filter.mp h).1

/-- A move changes where nodes are, not what they hold or show. -/
lemma exists_of_mem_rename {source target : String}
    (hrename : store.rename source target now = .ok after) (h : node ∈ after.nodes) :
    ∃ before ∈ store.nodes, node.body = before.body ∧ node.permissions = before.permissions := by
  by_cases hne : source = target
  · rw [Store.rename, if_pos hne] at hrename
    exact ⟨node, pure_eq_ok_iff.mp hrename ▸ h, rfl, rfl⟩
  · obtain ⟨before, hbefore, -, rfl⟩ := (mem_rename hne hrename).mp h
    exact ⟨before, hbefore, carried_body, carried_permissions⟩

theorem Fits.of_change (h : Fits store) (hchange : Change may store after) : Fits after := by
  intro node hnode content hbody
  rw [hchange.limits]
  cases hchange with
  | stay => exact h node hnode content hbody
  | @insert draft now normal free room =>
      rcases List.mem_append.mp hnode with hnode | hnode
      · exact h node hnode content hbody
      · rw [List.mem_singleton.mp hnode] at hbody
        change draft.body = .file content at hbody
        have hsize := (checkNew_eq_ok_iff.mp room).2.2.2
        rw [hbody] at hsize
        exact hsize
  | replace old found id kind accurate fits =>
      rcases mem_replace hnode with rfl | hnode
      · rcases fits with hsame | hsize
        · exact h _ (mem_of_get? found) content (hsame ▸ hbody)
        · rw [hbody] at hsize
          exact hsize
      · exact h node hnode content hbody
  | delete gone => exact h node (mem_of_mem_delete gone hnode) content hbody
  | rename normal moved =>
      obtain ⟨before, hbefore, hsame, -⟩ := exists_of_mem_rename moved hnode
      exact h before hbefore content (hsame ▸ hbody)

theorem Shows.of_change (h : Shows may store) (hchange : Change may store after) :
    Shows may after := by
  intro node hnode
  cases hchange with
  | stay => exact h node hnode
  | insert normal free room shows =>
      rcases List.mem_append.mp hnode with hnode | hnode
      · exact h node hnode
      · rw [List.mem_singleton.mp hnode]
        exact shows
  | replace old found id kind accurate fits shows =>
      rcases mem_replace hnode with rfl | hnode
      · rcases shows with hsame | hmay
        · rw [hsame, kind]
          exact h _ (mem_of_get? found)
        · exact hmay
      · exact h node hnode
  | delete gone => exact h node (mem_of_mem_delete gone hnode)
  | rename normal moved =>
      obtain ⟨before, hbefore, hbody, hpermissions⟩ := exists_of_mem_rename moved hnode
      rw [hbody, hpermissions]
      exact h before hbefore

end VirtualShell.Store
