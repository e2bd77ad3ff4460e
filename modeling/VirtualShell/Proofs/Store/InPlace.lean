import VirtualShell.Proofs.Store.Outcome
import VirtualShell.Proofs.Store.Invariant
import VirtualShell.Store.InPlace

/-!
# Operations in place come to the same

An operation that changes a store in place may fail half-way, so it has to be shown that none does.
This module runs each of them step by step.  `create`, `upsert`, `update` and `delete` end exactly
as the operations of the same names that answer a new store (`run_create` to `run_delete`), on any
store whatever; as those answer a store only if they succeed, every early return of these comes
before the first write.

A move is taken apart here into its checks (`moveCheck`) and the carrying of its nodes
(`run_rename`).  What the carrying comes to is the subject of `Proofs.Store.Carry`.
-/

namespace VirtualShell.Store

open Time (Instant)

variable {α : Type} {store : Store} {path source target : String} {node old : Node} {draft : Draft}
  {amendment : Amendment} {now : Instant}

/-- How an operation that answers a new store ends as an edit: if it fails, the store stays as it
was. -/
def ending (store : Store) : Except Failure (α × Store) → EStateM.Result Failure Store α
  | .ok (value, after) => .ok value after
  | .error failure => .error failure store

lemma throw_eq_error {failure : Failure} : (throw failure : Except Failure α) = .error failure :=
  rfl

@[simp] lemma error_bind {β : Type} {failure : Failure} {rest : α → Except Failure β} :
    (Except.error failure >>= rest) = .error failure := rfl

@[simp] lemma ok_bind {β : Type} {value : α} {rest : α → Except Failure β} :
    (Except.ok value >>= rest) = rest value := rfl

/-- A check writes nothing. -/
@[simp] lemma run_ofExcept {check : Except Failure α} :
    (MonadExcept.ofExcept check : Edit α).run store
      = match check with
        | .ok value => .ok value store
        | .error failure => .error failure store := by
  cases check <;> rfl

@[simp] lemma run_throw {failure : Failure} :
    (throw failure : Edit α).run store = .error failure store := rfl

@[simp] lemma run_map {β : Type} {answer : α → β} {edit : Edit α} :
    (answer <$> edit).run store
      = match edit.run store with
        | .ok value after => .ok (answer value) after
        | .error failure after => .error failure after := by
  rw [map_eq_pure_bind, EStateM.run_bind]
  cases edit.run store <;> rfl

/-! ## Writing to a node -/

lemma replace_replace {first second : Node} (h : first.path = second.path) :
    (store.replace first).replace second = store.replace second := by
  have hsame : ∀ other : Node,
      (if (if other.path = first.path then first else other).path = second.path then second
        else if other.path = first.path then first else other)
      = if other.path = second.path then second else other := by
    intro other
    by_cases hother : other.path = first.path
    · simp [hother, h]
    · simp [hother]
  simp only [replace, List.map_map, Function.comp_def, hsame]

lemma overwrite_of_get? {change : Node → Node} (h : store.get? path = some node) :
    store.overwrite path change = store.replace (change node) := by
  simp [overwrite, h]

/-- Writing to a node that has been written to: the last write has seen the one before. -/
lemma overwrite_replace {change : Node → Node} (h : store.get? path = some old)
    (hnode : node.path = old.path) (hchange : (change node).path = node.path) :
    (store.replace node).overwrite path change = store.replace (change node) := by
  have hget : (store.replace node).get? path = some node :=
    get?_replace_self (hnode.trans (path_of_get? h)) h
  rw [overwrite_of_get? hget, replace_replace hchange.symm]

lemma run_nodeAt (h : store.get? path = some node) :
    (InPlace.nodeAt path).run store = .ok node store := by
  simp [InPlace.nodeAt, h]

lemma run_nodeAt_of_none (h : store.get? path = none) :
    (InPlace.nodeAt path).run store = .error (.notFound path) store := by
  simp [InPlace.nodeAt, h]

/-- A node that has been written to is found as it was written. -/
lemma run_nodeAt_replace (h : store.get? path = some old) (hnode : node.path = old.path) :
    (InPlace.nodeAt path).run (store.replace node) = .ok node (store.replace node) :=
  run_nodeAt (get?_replace_self (hnode.trans (path_of_get? h)) h)

/-! ## Four operations -/

theorem run_create :
    (InPlace.create draft now).run store = ending store (store.create draft now) := by
  cases hthere : store.contains draft.path with
  | true =>
      have hcreate : store.create draft now = .error (.alreadyExists draft.path) := by
        simp [create, hthere, throw_eq_error]
      simp [InPlace.create, hthere, hcreate, ending]
  | false =>
      cases hroom : store.checkNew draft with
      | error failure => simp [InPlace.create, create, hthere, hroom, ending]
      | ok => simp [InPlace.create, create, hthere, hroom, ending]

theorem run_upsert :
    (InPlace.upsert draft now).run store = ending store (store.upsert draft now) := by
  cases hget : store.get? draft.path with
  | none =>
      have hfree : store.contains draft.path = false := contains_eq_false_iff.mpr hget
      cases hroom : store.checkNew draft with
      | error failure => simp [InPlace.upsert, upsert, hget, hfree, hroom, ending]
      | ok => simp [InPlace.upsert, upsert, hget, hfree, hroom, ending]
  | some old =>
      have hthere : store.contains draft.path = true := contains_eq_true_iff.mpr ⟨old, hget⟩
      have hnode := run_nodeAt hget
      cases hold : old.body with
      | directory =>
          cases hdraft : draft.body with
          | directory =>
              simp [InPlace.upsert, upsert, hget, hthere, hnode, hold, hdraft, ending,
                overwrite_of_get? hget, run_nodeAt_replace hget, pure, Except.pure]
          | file content =>
              simp [InPlace.upsert, upsert, hget, hthere, hnode, hold, hdraft, ending,
                throw_eq_error]
      | file before =>
          cases hdraft : draft.body with
          | directory =>
              simp [InPlace.upsert, upsert, hget, hthere, hnode, hold, hdraft, ending,
                throw_eq_error]
          | file content =>
              cases hsize : store.limits.fileSize? content.utf8ByteSize with
              | some breach =>
                  simp [InPlace.upsert, upsert, hget, hthere, hnode, hold, hdraft, hsize, within,
                    ending]
              | none =>
                  simp [InPlace.upsert, upsert, hget, hthere, hnode, hold, hdraft, hsize, within,
                    ending, overwrite_of_get? hget, overwrite_replace hget,
                    run_nodeAt_replace hget, Node.write]

/-- A text that is too large is refused before anything is written; else the next write to the node
sees the node as it is amended. -/
lemma run_amendText (content : Option String) (hget : store.get? path = some old) :
    (∃ failure, store.amended old content = .error failure
        ∧ (InPlace.amendText path old content).run store = .error failure store)
      ∨ ∃ made middle, store.amended old content = .ok made
        ∧ (InPlace.amendText path old content).run store = .ok () middle
        ∧ ∀ change : Node → Node, (∀ node, (change node).path = node.path) →
          middle.overwrite path change = store.replace (change made) := by
  have hkept : store.amended old content = .ok old →
      (InPlace.amendText path old content).run store = .ok () store →
      ∃ made middle, store.amended old content = .ok made
        ∧ (InPlace.amendText path old content).run store = .ok () middle
        ∧ ∀ change : Node → Node, (∀ node, (change node).path = node.path) →
          middle.overwrite path change = store.replace (change made) :=
    fun hmade hrun => ⟨old, store, hmade, hrun, fun _ _ => overwrite_of_get? hget⟩
  cases hold : old.body with
  | directory =>
      exact Or.inr (hkept (by simp [amended, hold]) (by simp [InPlace.amendText, hold]))
  | file before =>
      cases content with
      | none => exact Or.inr (hkept (by simp [amended, hold]) (by simp [InPlace.amendText, hold]))
      | some content =>
          cases hsize : store.limits.fileSize? content.utf8ByteSize with
          | some breach =>
              exact Or.inl ⟨.limitExceeded breach, by simp [amended, hold, hsize, within],
                by simp [InPlace.amendText, hold, hsize, within]⟩
          | none =>
              refine Or.inr ⟨old.write content, store.replace (old.write content),
                by simp [amended, hold, hsize, within], ?_, ?_⟩
              · simp [InPlace.amendText, hold, hsize, within, overwrite_of_get? hget,
                  overwrite_replace hget, Node.write]
              · intro change hchange
                exact overwrite_replace hget rfl (hchange _)

theorem run_update :
    (InPlace.update path amendment now).run store
      = ending store (store.update path amendment now) := by
  cases hget : store.get? path with
  | none =>
      have hnode := run_nodeAt_of_none hget
      simp [InPlace.update, update, hget, hnode, ending, throw_eq_error]
  | some old =>
      have hnode := run_nodeAt hget
      rcases run_amendText amendment.content hget with
        ⟨failure, hmade, hrun⟩ | ⟨made, middle, hmade, hrun, hover⟩
      · simp [InPlace.update, update, hget, hnode, hmade, hrun, ending]
      · have hpath : made.path = old.path := (kept_of_amended hmade).2.1
        have hpermissions : made.permissions = old.permissions := by
          rcases amended_eq_ok_iff.mp hmade with ⟨rfl, -⟩ | ⟨_, _, -, -, -, rfl⟩ <;> rfl
        cases hgiven : amendment.permissions with
        | none =>
            simp [InPlace.update, update, hget, hnode, hmade, hrun, hgiven, ending, hover,
              run_nodeAt_replace hget, hpath, hpermissions]
        | some permissions =>
            simp [InPlace.update, update, hget, hnode, hmade, hrun, hgiven, ending, hover,
              overwrite_replace hget, run_nodeAt_replace hget, hpath]

/-- Taking a node out that is not there changes nothing. -/
lemma erase_of_get?_eq_none (h : store.get? path = none) : store.erase path = store := by
  have hall : ∀ node ∈ store.nodes, (decide (node.path ≠ path)) = true := by
    simpa using get?_eq_none_iff.mp h
  rw [erase, List.filter_eq_self.mpr hall]

theorem run_delete :
    (InPlace.delete path).run store
      = match store.delete path with
        | some after => .ok true after
        | none => .ok false store := by
  by_cases hroot : path = "/"
  · simp [InPlace.delete, delete, hroot]
  · cases hget : store.get? path with
    | none =>
        have hfree : store.contains path = false := contains_eq_false_iff.mpr hget
        simp [InPlace.delete, delete, hroot, hget, hfree, erase_of_get?_eq_none hget]
    | some node =>
        have hthere : store.contains path = true := contains_eq_true_iff.mpr ⟨node, hget⟩
        simp [InPlace.delete, delete, hroot, hget, hthere, erase, List.filter_filter]
        exact List.filter_congr fun node _ => Bool.and_comm _ _

/-! ## Moves -/

/-- The checks of a move that looks at the new paths in a given order. -/
def moveCheck (store : Store) (order : List String) (source target : String) :
    Except Failure Unit := do
  match store.get? source with
  | none => throw (.notFound source)
  | some node =>
    if source = "/" then
      throw (.unsupported ("cannot move '" ++ source ++ "'"))
    if Path.isBelow target source then
      throw (.unsupported
        ("cannot move '" ++ source ++ "' to a subdirectory of itself, '" ++ target ++ "'"))
    store.checkParent target
    store.checkTarget node target
    within (order.findSome? fun path => store.limits.path? (Path.rebase path source target))

/-- Where the checks of a move pass; the order of the new paths makes no difference to that. -/
lemma moveCheck_eq_ok_iff {order : List String} :
    store.moveCheck order source target = .ok ()
      ↔ ∃ node, store.get? source = some node ∧ source ≠ "/"
        ∧ Path.isBelow target source = false ∧ store.checkParent target = .ok ()
        ∧ store.checkTarget node target = .ok ()
        ∧ ∀ path ∈ order, store.limits.path? (Path.rebase path source target) = none := by
  simp only [moveCheck]
  cases hget : store.get? source with
  | none => simp [throw_eq_ok_iff]
  | some node =>
      simp only [guard_eq_ok_iff, check_eq_ok_iff, within_eq_ok_iff, List.findSome?_eq_none_iff,
        Bool.not_eq_true, Option.some_inj, exists_eq_left']

/-- Checking the new paths one by one stops at the first that does not fit. -/
lemma run_checkPaths (order : List String) (store : Store) :
    (InPlace.checkPaths source target order).run store
      = match within (order.findSome? fun path =>
            store.limits.path? (Path.rebase path source target)) with
        | .ok () => .ok () store
        | .error failure => .error failure store := by
  induction order with
  | nil => rfl
  | cons path rest ih =>
      cases hbreach : store.limits.path? (Path.rebase path source target) with
      | none => simp [InPlace.checkPaths, hbreach, within, ih]
      | some breach => simp [InPlace.checkPaths, hbreach, within]

/-- Carrying nodes one by one cannot fail. -/
lemma run_carryPaths (order : List String) (store : Store) :
    (InPlace.carryPaths source target now order).run store
      = .ok () (order.foldl (carry source target now) store) := by
  induction order generalizing store with
  | nil => rfl
  | cons path rest ih => simp [InPlace.carryPaths, ih]

/-- A move in place makes all its checks before it writes. -/
theorem run_rename {enumerate : List String → List String} (hne : source ≠ target) :
    (InPlace.rename enumerate source target now).run store
      = match store.moveCheck (enumerate (InPlace.moving store source)) source target with
        | .ok () => .ok () ((enumerate (InPlace.moving store source)).foldl
            (carry source target now) (store.erase target))
        | .error failure => .error failure store := by
  cases hget : store.get? source with
  | none =>
      simp only [InPlace.rename, if_neg hne, moveCheck, hget, EStateM.run_bind,
        run_nodeAt_of_none hget, throw_eq_error]
  | some node =>
      simp only [InPlace.rename, if_neg hne, moveCheck, hget, EStateM.run_bind, run_nodeAt hget]
      by_cases hroot : source = "/"
      · simp only [if_pos hroot, throw_eq_error]
        rfl
      · by_cases hbelow : Path.isBelow target source = true
        · simp only [if_neg hroot, if_pos hbelow, throw_eq_error]
          rfl
        · simp only [if_neg hroot, if_neg hbelow]
          cases hparent : store.checkParent target with
          | error failure => simp [hparent]
          | ok =>
              cases hkinds : store.checkTarget node target with
              | error failure => simp [hparent, hkinds]
              | ok =>
                  cases hpaths : within ((enumerate (InPlace.moving store source)).findSome?
                      fun path => store.limits.path? (Path.rebase path source target)) with
                  | error failure => simp [hparent, hkinds, run_checkPaths, hpaths]
                  | ok =>
                      -- A target that is free has nothing to be taken out.
                      cases hthere : store.contains target with
                      | true =>
                          simp [hparent, hkinds, run_checkPaths, hpaths, hthere, run_carryPaths]
                      | false =>
                          have herase := erase_of_get?_eq_none (contains_eq_false_iff.mp hthere)
                          simp [hparent, hkinds, run_checkPaths, hpaths, hthere, run_carryPaths,
                            herase]

end VirtualShell.Store
