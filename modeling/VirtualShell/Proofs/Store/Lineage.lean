import Mathlib.Order.Basic
import VirtualShell.Proofs.Store.Bounds

/-!
# Numbers stand for nodes

A node keeps its number as long as it lives, wherever it is moved and whatever is written into it,
and a number is never given twice.  So of two states of one run, a node of the later one whose number
was given before the earlier one is a node of the earlier one: the same kind, created at the same
time, and not changed later than it says.  `Lineage` is this relation between two stores.  It is
reflexive and transitive, so a run has it when every call has.

**One call.**  `Aged` is what a call does to numbers and times.  Each node was there before, with at
most its time of change renewed, or is new, with the next number and the reading of the clock for
both its times.

**The clock.**  A time of change that is renewed must not go back, and that is not for the store to
see to: it takes the readings that it is given.  If these do not go back, no node is ahead of the
clock (`Dated`), and each call can be read as a step of the lineage.
-/

namespace VirtualShell

open Time (Instant)

instance : Preorder Instant where
  toLE := inferInstance
  le_refl a := Or.inr ⟨rfl, Nat.le_refl _⟩
  le_trans a b c (h : _ ∨ _) (h' : _ ∨ _) := by
    change _ ∨ _
    omega

namespace Store

variable {store middle after : Store} {node old : Node} {draft : Draft} {path : String}
  {now clock : Instant} {call : Call} {early late calls : List (Instant × Call)}

/-! ## One call -/

/-- What becomes of numbers and times where a call at `now` has turned one store into another. -/
structure Aged (now : Instant) (store after : Store) : Prop where
  nextId : store.nextId ≤ after.nextId
  /-- A node keeps its number, its kind and its time of creation; a node that is new has a new number
  and the times of the call. -/
  nodes : ∀ node ∈ after.nodes,
    (∃ old ∈ store.nodes, old.id = node.id ∧ old.kind = node.kind ∧ old.created = node.created
        ∧ (node.updated = old.updated ∨ node.updated = now))
      ∨ (store.nextId ≤ node.id ∧ node.id < after.nextId) ∧ node.created = now
        ∧ node.updated = now

lemma aged_self (store : Store) (now : Instant) : Aged now store store :=
  ⟨Nat.le_refl _, fun node hnode => Or.inl ⟨node, hnode, rfl, rfl, rfl, Or.inl rfl⟩⟩

lemma aged_insert : Aged now store (store.insert draft now).2 := by
  refine ⟨Nat.le_succ _, fun node hnode => ?_⟩
  rcases List.mem_append.mp hnode with hold | hnew
  · exact Or.inl ⟨node, hold, rfl, rfl, rfl, Or.inl rfl⟩
  · rw [List.mem_singleton.mp hnew]
    exact Or.inr ⟨⟨Nat.le_refl _, Nat.lt_succ_self _⟩, rfl, rfl⟩

lemma aged_replace (hold : old ∈ store.nodes) (hid : old.id = node.id)
    (hkind : old.kind = node.kind) (hcreated : old.created = node.created)
    (hupdated : node.updated = now) : Aged now store (store.replace node) := by
  refine ⟨Nat.le_refl _, fun other hother => ?_⟩
  rcases mem_replace hother with rfl | hother
  · exact Or.inl ⟨old, hold, hid, hkind, hcreated, Or.inr hupdated⟩
  · exact (aged_self store now).nodes other hother

lemma takeOver_updated {body : Body} : (node.takeOver now body).updated = now := by
  cases body <;> rfl

lemma aged_upsert {result : Node × Store} (h : store.upsert draft now = .ok result) :
    Aged now store result.2 := by
  rcases upsert_eq_ok_iff.mp h with ⟨-, -, rfl⟩ | ⟨old, hold, hkind, -, rfl⟩
  · exact aged_insert
  · have hsame : old.kind = (old.takeOver now draft.body).kind := by
      rw [Node.kind, Node.kind, Node.takeOver_body hkind, hkind]
    exact aged_replace (mem_of_get? hold) Node.takeOver_id.symm hsame Node.takeOver_created.symm
      takeOver_updated

lemma aged_update {amendment : Amendment} {result : Node × Store}
    (h : store.update path amendment now = .ok result) : Aged now store result.2 := by
  obtain ⟨old, made, hold, hmade, rfl⟩ := update_eq_ok_iff.mp h
  obtain ⟨hid, -, -, hkind, hcreated⟩ := kept_of_amended hmade
  exact aged_replace (mem_of_get? hold) hid.symm hkind.symm hcreated.symm rfl

lemma aged_delete (h : store.delete path = some after) : Aged now store after := by
  obtain ⟨-, -, hafter⟩ := delete_eq_some_iff.mp h
  exact ⟨Nat.le_of_eq (congrArg nextId hafter).symm,
    fun node hnode => Or.inl ⟨node, mem_of_mem_delete h hnode, rfl, rfl, rfl, Or.inl rfl⟩⟩

lemma carried_created {source target : String} :
    (carried source target now node).created = node.created := by
  simp only [carried]
  split <;> rfl

lemma carried_updated {source target : String} :
    (carried source target now node).updated = node.updated
      ∨ (carried source target now node).updated = now := by
  simp only [carried, moved]
  split_ifs <;> simp

lemma aged_rename {source target : String} (h : store.rename source target now = .ok after) :
    Aged now store after := by
  by_cases hne : source = target
  · rw [Store.rename, if_pos hne] at h
    exact pure_eq_ok_iff.mp h ▸ aged_self store now
  · obtain ⟨_, _, _, _, _, _, _, hafter⟩ := (rename_eq_ok_iff hne).mp h
    refine ⟨Nat.le_of_eq (congrArg nextId hafter).symm, fun node hnode => ?_⟩
    obtain ⟨old, hold, -, rfl⟩ := (mem_rename hne h).mp hnode
    have hkind : old.kind = (carried source target now old).kind := by
      rw [Node.kind, Node.kind, carried_body]
    exact Or.inl ⟨old, hold, carried_id.symm, hkind, carried_created.symm, carried_updated⟩

lemma aged_perform? (h : call.perform? store now = some after) : Aged now store after := by
  cases call with
  | create draft =>
      obtain ⟨_, hresult, rfl⟩ := Option.map_eq_some_iff.mp h
      obtain ⟨-, -, rfl⟩ := create_eq_ok_iff.mp (toOption_eq_some_iff.mp hresult)
      exact aged_insert
  | upsert draft =>
      obtain ⟨_, hresult, rfl⟩ := Option.map_eq_some_iff.mp h
      exact aged_upsert (toOption_eq_some_iff.mp hresult)
  | update path amendment =>
      obtain ⟨_, hresult, rfl⟩ := Option.map_eq_some_iff.mp h
      exact aged_update (toOption_eq_some_iff.mp hresult)
  | delete path => exact aged_delete h
  | rename source target => exact aged_rename (toOption_eq_some_iff.mp h)

lemma aged_after (store : Store) (now : Instant) (call : Call) :
    Aged now store (store.after now call) := by
  simp only [Store.after]
  cases hperform : call.perform? store now with
  | none => exact aged_self store now
  | some done => exact aged_perform? hperform

/-! ## No node is ahead of the clock -/

/-- What holds of the nodes of a store when the clock was last read at `clock`. -/
structure Dated (clock : Instant) (store : Store) : Prop where
  given : ∀ node ∈ store.nodes, node.id < store.nextId
  ordered : ∀ node ∈ store.nodes, node.created ≤ node.updated
  past : ∀ node ∈ store.nodes, node.updated ≤ clock

lemma dated_new (limits : Limits) (start : Instant) : Dated start (new limits start) := by
  have htimes : ∀ node ∈ (new limits start).nodes, node.created = start ∧ node.updated = start := by
    simp [new_nodes]
  refine ⟨(wellFormed_new limits start).fresh, fun node hnode => ?_, fun node hnode => ?_⟩
  · obtain ⟨hcreated, hupdated⟩ := htimes node hnode
    rw [hcreated, hupdated]
  · rw [(htimes node hnode).2]

lemma Dated.of_aged (h : Dated clock store) (haged : Aged now store after) (hclock : clock ≤ now) :
    Dated now after := by
  refine ⟨fun node hnode => ?_, fun node hnode => ?_, fun node hnode => ?_⟩
  all_goals
    rcases haged.nodes node hnode with
      ⟨old, hold, hid, -, hcreated, hupdated⟩ | ⟨⟨-, hnext⟩, hcreated, hupdated⟩
  · exact hid ▸ Nat.lt_of_lt_of_le (h.given old hold) haged.nextId
  · exact hnext
  · rw [← hcreated]
    rcases hupdated with hsame | hnow
    · exact hsame ▸ h.ordered old hold
    · rw [hnow]
      exact ((h.ordered old hold).trans (h.past old hold)).trans hclock
  · rw [hcreated, hupdated]
  · rcases hupdated with hsame | hnow
    · exact hsame ▸ (h.past old hold).trans hclock
    · rw [hnow]
  · rw [hupdated]

/-- While the clock does not go back, no node gets ahead of it. -/
lemma Dated.run (h : Dated clock store)
    (hclock : (clock :: (early ++ late).map Prod.fst).Pairwise (· ≤ ·)) :
    ∃ reading, Dated reading (store.run early)
      ∧ (reading :: late.map Prod.fst).Pairwise (· ≤ ·) := by
  induction early generalizing store clock with
  | nil => exact ⟨clock, h, hclock⟩
  | cons entry rest ih =>
      have hnext : clock ≤ entry.1 := (List.pairwise_cons.mp hclock).1 _ List.mem_cons_self
      exact ih (h.of_aged (aged_after store entry.1 entry.2) hnext) (List.pairwise_cons.mp hclock).2

/-! ## Two states -/

/-- A store as it came to be from another: where a number had been given before, the node is the
one that had it. -/
structure Lineage (before after : Store) : Prop where
  nextId : before.nextId ≤ after.nextId
  nodes : ∀ node ∈ after.nodes, node.id < before.nextId →
    ∃ old ∈ before.nodes, old.id = node.id ∧ old.kind = node.kind ∧ old.created = node.created
      ∧ old.updated ≤ node.updated

namespace Lineage

lemma refl (store : Store) : Lineage store store :=
  ⟨Nat.le_refl _, fun node hnode _ => ⟨node, hnode, rfl, rfl, rfl, le_rfl⟩⟩

lemma trans (h : Lineage store middle) (h' : Lineage middle after) : Lineage store after := by
  refine ⟨Nat.le_trans h.nextId h'.nextId, fun node hnode hid => ?_⟩
  obtain ⟨mid, hmid, hsame, hkind, hcreated, hupdated⟩ :=
    h'.nodes node hnode (Nat.lt_of_lt_of_le hid h.nextId)
  obtain ⟨old, hold, hsame', hkind', hcreated', hupdated'⟩ := h.nodes mid hmid (hsame ▸ hid)
  exact ⟨old, hold, hsame'.trans hsame, hkind'.trans hkind, hcreated'.trans hcreated,
    hupdated'.trans hupdated⟩

lemma of_aged (h : Dated clock store) (haged : Aged now store after) (hclock : clock ≤ now) :
    Lineage store after := by
  refine ⟨haged.nextId, fun node hnode hid => ?_⟩
  rcases haged.nodes node hnode with ⟨old, hold, hsame, hkind, hcreated, hupdated⟩ | ⟨hnew, -⟩
  · refine ⟨old, hold, hsame, hkind, hcreated, ?_⟩
    rcases hupdated with hkept | hnow
    · rw [hkept]
    · rw [hnow]
      exact (h.past old hold).trans hclock
  · exact absurd hid (Nat.not_lt.mpr hnew.1)

/-- **A run is a lineage**, by induction on its calls: the clock is not behind any node when the next
call begins. -/
theorem run (h : Dated clock store)
    (hclock : (clock :: calls.map Prod.fst).Pairwise (· ≤ ·)) : Lineage store (store.run calls) := by
  induction calls generalizing store clock with
  | nil => exact .refl store
  | cons entry rest ih =>
      have hnext : clock ≤ entry.1 := (List.pairwise_cons.mp hclock).1 _ List.mem_cons_self
      have haged := aged_after store entry.1 entry.2
      exact (of_aged h haged hnext).trans
        (ih (h.of_aged haged hnext) (List.pairwise_cons.mp hclock).2)

end Lineage

/-- **Numbers stand for nodes in every run** whose clock does not go back.  Take two of its states.
The number of the next node does not go down.  A node of the later state whose number had been given
before was there before, under this number, of the same kind, created at the same time and changed
no later; so a number that is gone does not come back.  Whatever is created from the later state gets
a number that had not been given.  And no node was created after its last change. -/
theorem numbers_identify_nodes (limits : Limits) (start : Instant)
    (early late : List (Instant × Call))
    (hclock : (start :: (early ++ late).map Prod.fst).Pairwise (· ≤ ·)) :
    let before := (new limits start).run early
    let after := before.run late
    before.nextId ≤ after.nextId
      ∧ (∀ node ∈ before.nodes, node.id < before.nextId)
      ∧ (∀ node ∈ after.nodes, node.id < before.nextId →
          ∃ old ∈ before.nodes, old.id = node.id ∧ old.kind = node.kind
            ∧ old.created = node.created ∧ old.updated ≤ node.updated)
      ∧ (∀ draft now node done,
          after.create draft now = .ok (node, done)
            ∨ after.contains draft.path = false ∧ after.upsert draft now = .ok (node, done) →
          before.nextId ≤ node.id)
      ∧ ∀ node ∈ after.nodes, node.created ≤ node.updated := by
  intro before after
  obtain ⟨reading, hbefore, hlate⟩ := (dated_new limits start).run hclock
  have hlineage : Lineage before after := .run hbefore hlate
  obtain ⟨_, hafter⟩ : ∃ last, Dated last after := by
    have hall : (reading :: (late ++ []).map Prod.fst).Pairwise (· ≤ ·) := by simpa using hlate
    obtain ⟨last, hlast, -⟩ := hbefore.run hall
    exact ⟨last, hlast⟩
  refine ⟨hlineage.nextId, hbefore.given, hlineage.nodes, fun draft now node done hmade => ?_,
    hafter.ordered⟩
  have hnumber : node.id = after.nextId := by
    rcases hmade with hcreate | ⟨hfree, hupsert⟩
    · obtain ⟨-, -, hresult⟩ := create_eq_ok_iff.mp hcreate
      rw [(Prod.mk.inj hresult).1]
    · rcases upsert_eq_ok_iff.mp hupsert with ⟨-, -, hresult⟩ | ⟨old, hold, -⟩
      · rw [(Prod.mk.inj hresult).1]
      · simp [contains_eq_false_iff.mp hfree] at hold
  exact hnumber ▸ hlineage.nextId

/-- A file is moved onto another and one is made in its old place: the first keeps its number, that
of the second is gone, and the third has a new one. -/
theorem numbers_identify_nodes_of_replaced :
    ∃ before after, before = (new {} ⟨0, 0⟩).run
        [(⟨1, 0⟩, .create (.file "/home/user/a" "one")),
         (⟨2, 0⟩, .create (.file "/home/user/b" "two"))]
      ∧ after = before.run
        [(⟨2, 5⟩, .rename "/home/user/a" "/home/user/b"),
         (⟨3, 0⟩, .upsert (.file "/home/user/a" "three"))]
      ∧ (before.nodes.drop 8).map (fun node => (node.path, node.id))
          = [("/home/user/a", 9), ("/home/user/b", 10)]
      ∧ (after.nodes.drop 8).map (fun node => (node.path, node.id))
          = [("/home/user/b", 9), ("/home/user/a", 11)]
      ∧ before.nextId = 11
      ∧ ∀ node ∈ after.nodes, node.id < before.nextId →
          ∃ old ∈ before.nodes, old.id = node.id ∧ old.kind = node.kind
            ∧ old.created = node.created ∧ old.updated ≤ node.updated := by
  obtain ⟨-, -, hnodes, -⟩ := numbers_identify_nodes {} ⟨0, 0⟩
    [(⟨1, 0⟩, .create (.file "/home/user/a" "one")),
     (⟨2, 0⟩, .create (.file "/home/user/b" "two"))]
    [(⟨2, 5⟩, .rename "/home/user/a" "/home/user/b"),
     (⟨3, 0⟩, .upsert (.file "/home/user/a" "three"))] (by decide)
  refine ⟨_, _, rfl, rfl, ?_, ?_, ?_, hnodes⟩
  all_goals decide +kernel

end Store

end VirtualShell
