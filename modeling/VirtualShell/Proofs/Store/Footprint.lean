import VirtualShell.Proofs.Store.Relocation

/-!
# The footprint of a call

A call in place looks, checks and writes on one and the same store.  Two things keep it from leaving
half a change behind or touching what is none of its business.

**It is atomic.**  A call that ends in a failure, or answers that there was nothing to be done, has
written nothing: the store is the same, with all its nodes and its next number.

**It is local.**  `Call.Touches` is the footprint of a call: the one path of a `create`, an `upsert`
or an `update`, a path and all below it for a `delete`, and two such subtrees for a `rename`.  At
every other path the store holds what it held before (`SameOutside`).

`atomic_and_local` states both of the calls in place on every store that can be reached, and that
they come to the same as the operations that answer a new store.
-/

namespace VirtualShell.Store

open Time (Instant)

open VirtualShell.Path (IsNormal)

/-- Two stores hold the same nodes wherever a set of paths does not reach. -/
def SameOutside (touched : String → Prop) (before after : Store) : Prop :=
  ∀ node : Node, ¬ touched node.path → (node ∈ after.nodes ↔ node ∈ before.nodes)

namespace Call

/-- A call on a store that changes in place, and whether it has been carried out. -/
def inPlace (enumerate : List String → List String) (now : Instant) : Call → Edit Bool
  | create draft => do
    let _ ← InPlace.create draft now
    return true
  | upsert draft => do
    let _ ← InPlace.upsert draft now
    return true
  | update path amendment => do
    let _ ← InPlace.update path amendment now
    return true
  | delete path => InPlace.delete path
  | rename source target => do
    InPlace.rename enumerate source target now
    return true

/-- The paths whose nodes a call may make, change or take away. -/
def Touches : Call → String → Prop
  | create draft, path | upsert draft, path => path = draft.path
  | update there _, path => path = there
  | delete gone, path => path = gone ∨ Path.isBelow path gone = true
  | rename source target, path =>
    (path = source ∨ Path.isBelow path source = true)
      ∨ path = target ∨ Path.isBelow path target = true

end Call

variable {store mid after : Store} {source target path : String} {node : Node} {draft : Draft}
  {amendment : Amendment} {now : Instant} {call : Call}
  {enumerate : List String → List String} {order : List String}

/-! ## Writing to the map -/

namespace SameOutside

variable {touched wider : String → Prop}

lemma refl : SameOutside touched store store := fun _ _ => Iff.rfl

lemma trans (h : SameOutside touched store mid) (h' : SameOutside touched mid after) :
    SameOutside touched store after :=
  fun node hnode => (h' node hnode).trans (h node hnode)

lemma mono (h : SameOutside touched store after) (hwider : ∀ path, touched path → wider path) :
    SameOutside wider store after :=
  fun node hnode => h node fun htouched => hnode (hwider node.path htouched)

/-- What a look-up finds outside: no two nodes of the store before share a path, and the store after
has no others. -/
lemma get?_eq (h : SameOutside touched store after) (hkeys : (store.nodes.map Node.path).Nodup)
    (hpath : ¬ touched path) : after.get? path = store.get? path := by
  cases hget : after.get? path with
  | none =>
      refine (get?_eq_none_iff.mpr ?_).symm
      rintro node hnode rfl
      exact get?_eq_none_iff.mp hget node ((h node hpath).mpr hnode) rfl
  | some node =>
      obtain rfl := path_of_get? hget
      exact ((get?_eq_some_iff_of_nodup hkeys).mpr
        ⟨(h node hpath).mp (mem_of_get? hget), rfl⟩).symm

end SameOutside

lemma sameOutside_insert : SameOutside (· = draft.path) store (store.insert draft now).2 := by
  intro node hnode
  rw [insert_nodes, List.mem_append, List.mem_singleton, or_iff_left]
  rintro rfl
  exact hnode rfl

lemma sameOutside_replace : SameOutside (· = node.path) store (store.replace node) := by
  intro other hother
  simp only [replace, List.mem_map]
  constructor
  · rintro ⟨before, hbefore, rfl⟩
    split at hother
    · exact absurd rfl hother
    · rename_i hpath
      rwa [if_neg hpath]
  · exact fun hmem => ⟨other, hmem, if_neg hother⟩

lemma sameOutside_erase : SameOutside (· = path) store (store.erase path) := by
  intro node hnode
  rw [erase, List.mem_filter, and_iff_left (decide_eq_true hnode)]

lemma mem_put {other : Node} :
    other ∈ (store.put node).nodes
      ↔ other = node ∨ other ∈ store.nodes ∧ other.path ≠ node.path := by
  simp only [put, erase, List.mem_append, List.mem_cons, List.mem_filter, decide_eq_true_eq]
  rcases Nat.lt_or_ge other.id node.id with hlt | hge
  · simp [hlt, Nat.not_le.mpr hlt, or_comm]
  · simp [hge, Nat.not_lt.mpr hge]

lemma sameOutside_put : SameOutside (· = node.path) store (store.put node) := by
  intro other hother
  rw [mem_put, and_iff_left hother, or_iff_right]
  rintro rfl
  exact hother rfl

/-- Carrying a node touches the path it leaves and the path it goes to. -/
lemma sameOutside_carry :
    SameOutside (fun other => other = path ∨ other = Path.rebase path source target) store
      (carry source target now store path) := by
  rw [carry]
  split
  · exact .refl
  · rename_i node hget
    refine (sameOutside_erase.mono fun _ => Or.inl).trans
      (sameOutside_put.mono fun other hother => Or.inr ?_)
    rw [hother, ← path_of_get? hget]
    rfl

/-! ## Operations -/

lemma sameOutside_create (h : store.create draft now = .ok (node, after)) :
    SameOutside (· = draft.path) store after := by
  obtain ⟨-, -, hresult⟩ := create_eq_ok_iff.mp h
  obtain rfl : after = (store.insert draft now).2 := congrArg Prod.snd hresult
  exact sameOutside_insert

lemma sameOutside_upsert (h : store.upsert draft now = .ok (node, after)) :
    SameOutside (· = draft.path) store after := by
  rcases upsert_eq_ok_iff.mp h with ⟨-, -, hresult⟩ | ⟨old, hold, -, -, hresult⟩
  · obtain rfl : after = (store.insert draft now).2 := congrArg Prod.snd hresult
    exact sameOutside_insert
  · obtain rfl : after = store.replace (old.takeOver now draft.body) := congrArg Prod.snd hresult
    have hpath : (old.takeOver now draft.body).path = draft.path := by
      rw [Node.takeOver_path, path_of_get? hold]
    exact hpath ▸ sameOutside_replace

lemma sameOutside_update (h : store.update path amendment now = .ok (node, after)) :
    SameOutside (· = path) store after := by
  obtain ⟨old, made, hold, hmade, hresult⟩ := update_eq_ok_iff.mp h
  obtain rfl := congrArg Prod.snd hresult
  refine sameOutside_replace.mono fun other hother => ?_
  rw [hother, ← path_of_get? hold]
  exact (kept_of_amended hmade).2.1

lemma sameOutside_delete (h : store.delete path = some after) :
    SameOutside (Call.Touches (.delete path)) store after := by
  obtain ⟨-, -, rfl⟩ := delete_eq_some_iff.mp h
  intro node hnode
  have hstays : staysWithout node.path path = true := by
    rw [← Bool.not_eq_false]
    exact mt staysWithout_eq_false_iff.mp hnode
  exact List.mem_filter.trans (and_iff_left hstays)

lemma sameOutside_rename (h : store.rename source target now = .ok after) :
    SameOutside (Call.Touches (.rename source target)) store after := by
  by_cases hne : source = target
  · rw [Store.rename, if_pos hne] at h
    exact pure_eq_ok_iff.mp h ▸ .refl
  intro node hnode
  obtain ⟨hsource, htarget⟩ := not_or.mp hnode
  rw [mem_rename hne h]
  constructor
  · rintro ⟨before, hbefore, hfree, rfl⟩
    rw [carried_path] at hsource htarget
    by_cases hmoves : before.path = source ∨ Path.isBelow before.path source = true
    · rw [place_of_moves hmoves] at htarget
      exact absurd (Path.rebase_eq_or_isBelow before.path source target) htarget
    · rwa [Store.carried, if_neg (mt movesWith_iff.mp hmoves)]
  · intro hmem
    exact ⟨node, hmem, fun hsame => htarget (Or.inl hsame),
      if_neg (mt movesWith_iff.mp hsource)⟩

/-- Carrying nodes of a subtree stays inside it and inside the subtree at the target, one node
after another. -/
lemma sameOutside_foldl_carry
    (horder : ∀ path ∈ order, path = source ∨ Path.isBelow path source = true) :
    SameOutside (Call.Touches (.rename source target)) store
      (order.foldl (carry source target now) store) := by
  induction order generalizing store with
  | nil => exact .refl
  | cons path rest ih =>
      obtain ⟨hpath, hrest⟩ := List.forall_mem_cons.mp horder
      refine SameOutside.trans (sameOutside_carry.mono ?_) (ih hrest)
      rintro other (rfl | rfl)
      · exact Or.inl hpath
      · exact Or.inr (Path.rebase_eq_or_isBelow path source target)

/-- The operations that answer a new store are local. -/
lemma sameOutside_perform? (h : call.perform? store now = some after) :
    SameOutside call.Touches store after := by
  cases call with
  | create draft =>
      obtain ⟨_, hresult, rfl⟩ := Option.map_eq_some_iff.mp h
      exact sameOutside_create (toOption_eq_some_iff.mp hresult)
  | upsert draft =>
      obtain ⟨_, hresult, rfl⟩ := Option.map_eq_some_iff.mp h
      exact sameOutside_upsert (toOption_eq_some_iff.mp hresult)
  | update path amendment =>
      obtain ⟨_, hresult, rfl⟩ := Option.map_eq_some_iff.mp h
      exact sameOutside_update (toOption_eq_some_iff.mp hresult)
  | delete path => exact sameOutside_delete h
  | rename source target => exact sameOutside_rename (toOption_eq_some_iff.mp h)

/-! ## Calls in place -/

/-- The ways in which a call in place can end.  There is none that leaves a changed store behind
without having carried the call out. -/
inductive Ends (store : Store) (call : Call) : EStateM.Result Failure Store Bool → Prop where
  | failed (failure : Failure) : Ends store call (.error failure store)
  | nothingToDo : Ends store call (.ok false store)
  | done {after : Store} (same : SameOutside call.Touches store after) :
      Ends store call (.ok true after)

/-- An edit that ends as an operation does whose changes are local. -/
lemma ends_of_ending {α : Type} {edit : Edit α} {result : Except Failure (α × Store)}
    (hrun : edit.run store = ending store result)
    (hlocal : ∀ value after, result = .ok (value, after) →
      SameOutside call.Touches store after) :
    Ends store call ((do let _ ← edit; return true : Edit Bool).run store) := by
  rw [bind_pure_comp, run_map, hrun]
  rcases result with failure | ⟨value, after⟩
  · exact .failed failure
  · exact .done (hlocal value after rfl)

/-- One case for each operation. -/
theorem ends_inPlace (henumerate : ∀ paths, (enumerate paths).Perm paths) :
    Ends store call ((call.inPlace enumerate now).run store) := by
  cases call with
  | create draft => exact ends_of_ending run_create fun _ _ => sameOutside_create
  | upsert draft => exact ends_of_ending run_upsert fun _ _ => sameOutside_upsert
  | update path amendment => exact ends_of_ending run_update fun _ _ => sameOutside_update
  | delete path =>
      rw [Call.inPlace, run_delete]
      cases hdelete : store.delete path with
      | none => exact .nothingToDo
      | some after => exact .done (sameOutside_delete hdelete)
  | rename source target =>
      rw [Call.inPlace, bind_pure_comp, run_map]
      by_cases hne : source = target
      · simp only [InPlace.rename, if_pos hne]
        exact .done .refl
      · rw [run_rename hne]
        cases store.moveCheck (enumerate (InPlace.moving store source)) source target with
        | error failure => exact .failed failure
        | ok =>
            have horder : ∀ path ∈ enumerate (InPlace.moving store source),
                path = source ∨ Path.isBelow path source = true :=
              fun path hpath => (mem_moving.mp ((henumerate _).mem_iff.mp hpath)).2
            -- the target is taken out first, and then the nodes are carried
            exact .done ((sameOutside_erase.mono fun other hother => Or.inr (Or.inl hother)).trans
              (sameOutside_foldl_carry horder))

lemma run_done_eq_ok_iff {α : Type} {edit : Edit α} {result : Except Failure (α × Store)}
    (hrun : edit.run store = ending store result) :
    (do let _ ← edit; return true : Edit Bool).run store = .ok true after
      ↔ result.toOption.map Prod.snd = some after := by
  rcases result with failure | ⟨value, done⟩ <;> simp [hrun, ending, Except.toOption]

/-- **A call in place is carried out where the operation answers a new store, and leaves that
store.** -/
theorem run_inPlace_eq_ok_iff (h : WellFormed store) (hproper : call.Proper)
    (henumerate : ∀ paths, (enumerate paths).Perm paths) :
    (call.inPlace enumerate now).run store = .ok true after
      ↔ call.perform? store now = some after := by
  cases call with
  | create draft => exact run_done_eq_ok_iff run_create
  | upsert draft => exact run_done_eq_ok_iff run_upsert
  | update path amendment => exact run_done_eq_ok_iff run_update
  | delete path =>
      rw [Call.inPlace, run_delete, Call.perform?]
      cases store.delete path <;> simp
  | rename source target =>
      rw [Call.perform?, toOption_eq_some_iff, ← run_rename_eq_ok_iff h hproper henumerate]
      cases hrun : (InPlace.rename enumerate source target now).run store <;>
        simp [Call.inPlace, hrun]

/-- **Atomic and local.**  Whatever call is made on a store that can be reached: if it fails, or
there is nothing to be done, the store is left exactly as it was; if it is carried out, nothing has
changed outside its footprint.  The order in which a map lists its paths has no part in this, and
the operations that answer a new store do the same. -/
theorem atomic_and_local (limits : Limits) (start : Instant) (calls : List (Instant × Call))
    (hcalls : ∀ entry ∈ calls, entry.2.Proper) (call : Call) (now : Instant)
    (enumerate : List String → List String)
    (henumerate : ∀ paths, (enumerate paths).Perm paths) :
    let store := (new limits start).run calls
    let ended := (call.inPlace enumerate now).run store
    (∀ failure after, ended = .error failure after → after = store)
      ∧ (∀ after, ended = .ok false after → after = store)
      ∧ (∀ after, ended = .ok true after →
          ∀ path, ¬ call.Touches path → after.get? path = store.get? path)
      ∧ (∀ after, call.perform? store now = some after →
          ∀ path, ¬ call.Touches path → after.get? path = store.get? path)
      ∧ (call.Proper → ∀ after, ended = .ok true after ↔ call.perform? store now = some after) := by
  intro store ended
  have hstore : WellFormed store := wellFormed_run limits start hcalls
  have hends : Ends store call ended := ends_inPlace henumerate
  refine ⟨?_, ?_, ?_, ?_, fun hproper _ => run_inPlace_eq_ok_iff hstore hproper henumerate⟩
  · intro failure after hended
    rw [hended] at hends
    cases hends with
    | failed => rfl
  · intro after hended
    rw [hended] at hends
    cases hends with
    | nothingToDo => rfl
  · intro after hended path hpath
    rw [hended] at hends
    cases hends with
    | done same => exact same.get?_eq hstore.keys hpath
  · intro after hperform path hpath
    exact (sameOutside_perform? hperform).get?_eq hstore.keys hpath

/-- A directory moves with the file in it, and a file beside the directory stays as it was. -/
theorem atomic_and_local_of_move :
    let store := (new {} ⟨0, 0⟩).run [(⟨1, 0⟩, .create (.file "/home/user/Documents/a" "text"))]
    let call := Call.rename "/home/user/Documents" "/home/user/Projects/b"
    ∃ after, (call.inPlace List.reverse ⟨2, 0⟩).run store = .ok true after
      ∧ after.get? "/home/user/.bashrc" = store.get? "/home/user/.bashrc" := by
  intro store call
  have hcalls : ∀ entry ∈ [((⟨1, 0⟩ : Instant),
      Call.create (.file "/home/user/Documents/a" "text"))], entry.2.Proper :=
    List.forall_mem_singleton.mpr (.file _ _)
  obtain ⟨-, -, hlocal, -, hsame⟩ := atomic_and_local {} ⟨0, 0⟩ _ hcalls call ⟨2, 0⟩ List.reverse
    List.reverse_perm
  have hproper : call.Proper := by
    show IsNormal "/home/user/Projects/b"
    decide
  have hdone : (call.perform? store ⟨2, 0⟩).isSome = true := by decide +kernel
  obtain ⟨after, hafter⟩ := Option.isSome_iff_exists.mp hdone
  have hended := (hsame hproper after).mpr hafter
  refine ⟨after, hended, hlocal after hended _ ?_⟩
  show ¬ ((_ = _ ∨ _) ∨ _ = _ ∨ _)
  decide

end VirtualShell.Store
