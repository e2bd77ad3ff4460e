import VirtualShell.Proofs.Store.Relocation

/-!
# What the limits bound

The seed is planted without being checked, and afterwards no operation checks every limit: `upsert`
over a file looks at its size alone, a move at its paths alone.  Still the limits bound every store
that can be reached, up to the seed.  A file that is too large is one of the seed with the text that
it was planted with, and a path that is too long is one of the seed where it was planted.

**One call.**  `Checked` is what a call that succeeds has checked.  Every node was there before,
under the same number, and what has changed of its body and its path is within the limits; or it is
new and all of it is.  There is at most one node more, and then it was counted.

**All calls.**  `Bounded` follows call by call.  Nothing is asked of the calls: drafts may have any
path and nodes may move to any target.

**The count.**  Nodes are counted in a word, and the check stops at the largest (`unbounded`).  A
limit that large is never exceeded, so under it the bound is one for stores whose nodes can be
counted.
-/

namespace VirtualShell.Store

open Time (Instant)

variable {store after origin : Store} {node old : Node} {draft : Draft} {path : String}
  {now : Instant} {limits : Limits} {call : Call} {calls : List (Instant × Call)}

/-! ## One call -/

/-- What has been checked where one store has become another. -/
structure Checked (store after : Store) : Prop where
  limits : after.limits = store.limits
  count : after.size ≤ store.size ∨ min after.size unbounded ≤ store.limits.nodeCount
  /-- A node keeps its number, and its body and its path are as they were or within the limits; a
  node that is new is within them. -/
  nodes : ∀ node ∈ after.nodes,
    (∃ old ∈ store.nodes, old.id = node.id
        ∧ (node.body = old.body ∧ node.size = old.size ∨ node.size ≤ store.limits.fileSize)
        ∧ (node.path = old.path ∨ store.limits.Allows node.path))
      ∨ node.size ≤ store.limits.fileSize ∧ store.limits.Allows node.path

lemma checked_self (store : Store) : Checked store store :=
  ⟨rfl, Or.inl (Nat.le_refl _),
    fun node hnode => Or.inl ⟨node, hnode, rfl, Or.inl ⟨rfl, rfl⟩, Or.inl rfl⟩⟩

lemma nodeCount?_eq_none_iff {current : Nat} :
    limits.nodeCount? current 1 = none ↔ min (current + 1) unbounded ≤ limits.nodeCount := by
  simp only [Limits.nodeCount?, ite_eq_right_iff, reduceCtorEq, imp_false, Nat.not_lt]

lemma checked_insert (h : store.checkNew draft = .ok ()) :
    Checked store (store.insert draft now).2 := by
  obtain ⟨-, hpath, hcount, hsize⟩ := checkNew_eq_ok_iff.mp h
  refine ⟨rfl, Or.inr ?_, fun node hnode => ?_⟩
  · simpa [size] using nodeCount?_eq_none_iff.mp hcount
  · rcases List.mem_append.mp hnode with hold | hnew
    · exact (checked_self store).nodes node hold
    · rw [List.mem_singleton.mp hnew]
      exact Or.inr ⟨hsize, Limits.path?_eq_none_iff.mp hpath⟩

lemma checked_replace (hold : old ∈ store.nodes) (hid : old.id = node.id)
    (hpath : node.path = old.path)
    (hsize : node.body = old.body ∧ node.size = old.size ∨ node.size ≤ store.limits.fileSize) :
    Checked store (store.replace node) := by
  refine ⟨rfl, Or.inl (by simp [size, Store.replace]), fun other hother => ?_⟩
  rcases mem_replace hother with rfl | hother
  · exact Or.inl ⟨old, hold, hid, hsize, Or.inl hpath⟩
  · exact (checked_self store).nodes other hother

lemma checked_upsert {result : Node × Store} (h : store.upsert draft now = .ok result) :
    Checked store result.2 := by
  rcases upsert_eq_ok_iff.mp h with ⟨-, hroom, rfl⟩ | ⟨old, hold, hkind, hfits, rfl⟩
  · exact checked_insert hroom
  · refine checked_replace (mem_of_get? hold) Node.takeOver_id.symm Node.takeOver_path ?_
    cases hbody : draft.body with
    | file content => exact Or.inr (hfits content hbody)
    | directory => exact Or.inl ⟨rfl, rfl⟩

lemma checked_update {amendment : Amendment} {result : Node × Store}
    (h : store.update path amendment now = .ok result) : Checked store result.2 := by
  obtain ⟨old, made, hold, hmade, rfl⟩ := update_eq_ok_iff.mp h
  obtain ⟨hid, hpath, -⟩ := kept_of_amended hmade
  refine checked_replace (mem_of_get? hold) hid.symm hpath ?_
  rcases amended_eq_ok_iff.mp hmade with ⟨rfl, -⟩ | ⟨_, text, -, -, hfits, rfl⟩
  · exact Or.inl ⟨rfl, rfl⟩
  · exact Or.inr hfits

lemma checked_delete (h : store.delete path = some after) : Checked store after := by
  obtain ⟨-, -, rfl⟩ := delete_eq_some_iff.mp h
  exact ⟨rfl, Or.inl (List.length_filter_le _ _),
    fun node hnode => (checked_self store).nodes node (List.mem_filter.mp hnode).1⟩

lemma carried_size {source target : String} :
    (carried source target now node).size = node.size := by
  simp only [carried]
  split <;> rfl

lemma checked_rename {source target : String} (h : store.rename source target now = .ok after) :
    Checked store after := by
  by_cases hne : source = target
  · rw [Store.rename, if_pos hne] at h
    exact pure_eq_ok_iff.mp h ▸ checked_self store
  · have hmay := (exists_rename_iff hne).mp ⟨after, h⟩
    obtain ⟨_, _, _, _, _, _, _, hafter⟩ := (rename_eq_ok_iff hne).mp h
    refine ⟨by rw [hafter], Or.inl ?_, fun node hnode => ?_⟩
    · rw [size, nodes_rename hne h, List.length_map]
      exact List.length_filter_le _ _
    · obtain ⟨old, hold, -, rfl⟩ := (mem_rename hne h).mp hnode
      refine Or.inl ⟨old, hold, carried_id.symm, Or.inl ⟨carried_body, carried_size⟩, ?_⟩
      rw [carried_path]
      by_cases hmoves : old.path = source ∨ Path.isBelow old.path source = true
      · rw [place_of_moves hmoves]
        exact Or.inr (hmay.fits old hold hmoves)
      · exact Or.inl (place_of_stays hmoves)

/-- A call that succeeds has checked what it changes. -/
lemma checked_perform? (h : call.perform? store now = some after) : Checked store after := by
  cases call with
  | create draft =>
      obtain ⟨_, hresult, rfl⟩ := Option.map_eq_some_iff.mp h
      obtain ⟨-, hroom, rfl⟩ := create_eq_ok_iff.mp (toOption_eq_some_iff.mp hresult)
      exact checked_insert hroom
  | upsert draft =>
      obtain ⟨_, hresult, rfl⟩ := Option.map_eq_some_iff.mp h
      exact checked_upsert (toOption_eq_some_iff.mp hresult)
  | update path amendment =>
      obtain ⟨_, hresult, rfl⟩ := Option.map_eq_some_iff.mp h
      exact checked_update (toOption_eq_some_iff.mp hresult)
  | delete path => exact checked_delete h
  | rename source target => exact checked_rename (toOption_eq_some_iff.mp h)

/-! ## All calls -/

/-- A store that its limits bound, but for what it began with. -/
structure Bounded (origin store : Store) : Prop where
  limits : store.limits = origin.limits
  count : min store.size unbounded ≤ max origin.size origin.limits.nodeCount
  /-- What is too large has held the same from the beginning. -/
  sizes : ∀ node ∈ store.nodes, origin.limits.fileSize < node.size →
    ∃ old ∈ origin.nodes, old.id = node.id ∧ old.body = node.body
  /-- What has too long a path has been there from the beginning. -/
  paths : ∀ node ∈ store.nodes, ¬ origin.limits.Allows node.path →
    ∃ old ∈ origin.nodes, old.id = node.id ∧ old.path = node.path

lemma bounded_self (origin : Store) : Bounded origin origin :=
  ⟨rfl, by omega, fun node hnode _ => ⟨node, hnode, rfl, rfl⟩,
    fun node hnode _ => ⟨node, hnode, rfl, rfl⟩⟩

theorem Bounded.of_checked (h : Bounded origin store) (hchecked : Checked store after) :
    Bounded origin after := by
  obtain ⟨hlimits, hcount, hnodes⟩ := hchecked
  rw [h.limits] at hcount hnodes
  refine ⟨hlimits.trans h.limits, ?_, fun node hnode hlarge => ?_, fun node hnode hlong => ?_⟩
  · have hbefore := h.count
    omega
  · rcases hnodes node hnode with ⟨old, hold, hid, hsize, -⟩ | ⟨hsize, -⟩
    · -- a size that has been checked is not too large, so the text is the old one
      obtain ⟨hbody, hsame⟩ := hsize.resolve_right (Nat.not_le.mpr hlarge)
      rw [hbody, ← hid]
      exact h.sizes old hold (hsame ▸ hlarge)
    · exact absurd hsize (Nat.not_le.mpr hlarge)
  · rcases hnodes node hnode with ⟨old, hold, hid, -, hpath⟩ | ⟨-, hallows⟩
    · have hsame : node.path = old.path := hpath.resolve_right hlong
      rw [hsame, ← hid]
      exact h.paths old hold (hsame ▸ hlong)
    · exact absurd hallows hlong

lemma Bounded.run (h : Bounded origin store) : Bounded origin (store.run calls) := by
  induction calls generalizing store with
  | nil => exact h
  | cons entry rest ih =>
      have hafter : Bounded origin (store.after entry.1 entry.2) := by
        simp only [Store.after]
        cases hperform : entry.2.perform? store entry.1 with
        | none => exact h
        | some done => exact h.of_checked (checked_perform? hperform)
      exact ih hafter

/-- **The limits bound every store that can be reached**, whatever they are and whatever is called.
There are at most as many nodes as the limit says, or the eight of the seed if it says less; a file
that is too large is one of the seed and has kept its text; and a node whose path is too long, as a
whole or in one of its segments, is one of the seed and has kept its place. -/
theorem limits_bound_run (limits : Limits) (start : Instant) (calls : List (Instant × Call)) :
    let store := (new limits start).run calls
    (limits.nodeCount < unbounded ∨ store.size ≤ unbounded →
        store.size ≤ max 8 limits.nodeCount)
      ∧ (∀ node ∈ store.nodes, node.kind = .file → limits.fileSize < node.size →
          ∃ old ∈ (new limits start).nodes, old.id = node.id ∧ old.body = node.body)
      ∧ (∀ node ∈ store.nodes,
          (limits.pathLength < node.path.utf8ByteSize
            ∨ ∃ name ∈ Text.pieces '/' node.path.toList,
                limits.nameLength < Text.byteLength name) →
          ∃ old ∈ (new limits start).nodes, old.id = node.id ∧ old.path = node.path) := by
  intro store
  have hbounded : Bounded (new limits start) store := (bounded_self _).run
  refine ⟨fun hcountable => ?_, fun node hnode _ hlarge => hbounded.sizes node hnode hlarge,
    fun node hnode hlong => hbounded.paths node hnode ?_⟩
  · have hcount : min store.size unbounded ≤ max 8 limits.nodeCount := hbounded.count
    have hword : 8 < unbounded := by decide
    omega
  · rintro ⟨hwhole, hnames⟩
    rcases hlong with hlong | ⟨name, hname, hlong⟩
    · exact absurd hwhole (Nat.not_le.mpr hlong)
    · exact absurd (hnames name hname) (Nat.not_le.mpr hlong)

/-- The limits are below the seed in all but the sizes.  A dotfile of the seed moves, so its path is
within the limits from then on, and nothing can be made beside it. -/
theorem limits_bound_run_of_move :
    ∃ limits store, limits = (⟨3, 10, 15, 8⟩ : Limits)
      ∧ store = (new limits ⟨0, 0⟩).run
          [(⟨1, 0⟩, .rename "/home/user/.bashrc" "/home/user/b"),
           (⟨2, 0⟩, .create (.directory "/home/a"))]
      ∧ store.size ≤ 8
      ∧ (∃ node ∈ store.nodes, node.path = "/home/user/b"
          ∧ ∃ old ∈ (new limits ⟨0, 0⟩).nodes, old.id = node.id ∧ old.body = node.body)
      ∧ ∃ node ∈ store.nodes, node.path = "/home/user/.bash_logout"
          ∧ ∃ old ∈ (new limits ⟨0, 0⟩).nodes, old.id = node.id ∧ old.path = node.path := by
  obtain ⟨store, hstore⟩ : ∃ store, store = (new ⟨3, 10, 15, 8⟩ ⟨0, 0⟩).run
      [(⟨1, 0⟩, .rename "/home/user/.bashrc" "/home/user/b"),
       (⟨2, 0⟩, .create (.directory "/home/a"))] := ⟨_, rfl⟩
  obtain ⟨hcount, hsizes, hpaths⟩ := limits_bound_run ⟨3, 10, 15, 8⟩ ⟨0, 0⟩
    [(⟨1, 0⟩, .rename "/home/user/.bashrc" "/home/user/b"),
     (⟨2, 0⟩, .create (.directory "/home/a"))]
  rw [← hstore] at hcount hsizes hpaths
  have hmoved : ∃ node ∈ store.nodes, node.path = "/home/user/b" ∧ node.kind = .file
      ∧ 10 < node.size := by
    rw [hstore]
    decide +kernel
  have hkept : ∃ node ∈ store.nodes, node.path = "/home/user/.bash_logout"
      ∧ 15 < node.path.utf8ByteSize := by
    rw [hstore]
    decide +kernel
  obtain ⟨moved, hmem, hplace, hkind, hlarge⟩ := hmoved
  obtain ⟨kept, hin, hstays, hlong⟩ := hkept
  exact ⟨_, store, rfl, hstore, hcount (Or.inl (by decide)),
    ⟨moved, hmem, hplace, hsizes moved hmem hkind hlarge⟩,
    ⟨kept, hin, hstays, hpaths kept hin (Or.inl hlong)⟩⟩

end VirtualShell.Store
