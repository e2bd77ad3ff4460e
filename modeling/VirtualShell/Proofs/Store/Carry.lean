import VirtualShell.Proofs.Store.InPlace
import VirtualShell.Proofs.Store.Move

/-!
# Carrying nodes one at a time

A move in place takes one node after another out of the map and puts it in again at its new path,
while the others are still on their way.  Were a new path occupied at that moment, the node there
would be lost.

It never is.  `halfway` is the store in which some of the paths have been carried and the others
have not; at every such moment the paths of the nodes are distinct (`Movable.partway_inj`), since
nothing but the target itself stands at or below the target, and the target has been taken out.  So
one `carry` leads from one `halfway` to the next (`carry_halfway`), and a whole sequence to the one
in which all of its paths have been carried (`foldl_carry_halfway`).  The sequence enters only by
its members, so **any order** leaves the store that `rename` answers (`foldl_carry_eq_rename`).
-/

namespace VirtualShell.Store

open Time (Instant)

open VirtualShell.Path (IsNormal)

variable {store after : Store} {source target path : String} {node : Node} {now : Instant}
  {done order : List String}

/-! ## One node -/

/-- Carrying a node keeps its position, as its number stays, and does not touch the others, if none
of them is in the way. -/
lemma carry_of_split {front back : List Node} (hnodes : store.nodes = front ++ node :: back)
    (hids : (store.nodes.map Node.id).Pairwise (· < ·))
    (hold : ∀ other ∈ front ++ back, other.path ≠ node.path)
    (hnew : ∀ other ∈ front ++ back, other.path ≠ Path.rebase node.path source target) :
    carry source target now store node.path
      = { store with nodes := front ++ moved source target now node :: back } := by
  have hget : store.get? node.path = some node := by
    rw [get?, hnodes, List.find?_append, List.find?_eq_none.mpr, Option.none_or,
      List.find?_cons_of_pos (by simp)]
    intro other hother
    simpa using hold other (List.mem_append_left back hother)
  have herase : (store.erase node.path).nodes = front ++ back := by
    rw [erase, hnodes, List.filter_append, List.filter_cons_of_neg (by simp), ← List.filter_append,
      List.filter_eq_self.mpr]
    intro other hother
    simpa using hold other hother
  have hothers : ((store.erase node.path).erase (moved source target now node).path).nodes
      = front ++ back := by
    rw [erase, herase, List.filter_eq_self.mpr]
    intro other hother
    exact decide_eq_true (hnew other hother)
  rw [hnodes, List.map_append, List.map_cons, List.pairwise_append] at hids
  obtain ⟨-, hback, hfront⟩ := hids
  have hbefore : ∀ other ∈ front, other.id < node.id := fun other hother =>
    hfront other.id (List.mem_map_of_mem hother) node.id List.mem_cons_self
  have hbehind : ∀ other ∈ back, node.id < other.id := fun other hother =>
    (List.pairwise_cons.mp hback).1 other.id (List.mem_map_of_mem hother)
  have hlower : (front ++ back).filter (fun other => other.id < node.id) = front := by
    rw [List.filter_append,
      List.filter_eq_self.mpr fun other hother => decide_eq_true (hbefore other hother),
      List.filter_eq_nil_iff.mpr fun other hother => by
        simpa using Nat.le_of_lt (hbehind other hother),
      List.append_nil]
  have hhigher : (front ++ back).filter (fun other => node.id ≤ other.id) = back := by
    rw [List.filter_append,
      List.filter_eq_nil_iff.mpr fun other hother => by simpa using hbefore other hother,
      List.filter_eq_self.mpr fun other hother =>
        decide_eq_true (Nat.le_of_lt (hbehind other hother)),
      List.nil_append]
  have hid : (moved source target now node).id = node.id := rfl
  simp only [carry, hget, put, hothers, hid, hlower, hhigher]
  rfl

/-! ## Half-way -/

/-- A node while a move is under way, when the paths in a list have been carried. -/
def partway (source target : String) (now : Instant) (done : List String) (node : Node) : Node :=
  if node.path ∈ done then moved source target now node else node

/-- The store while a move is under way, when the paths in a list have been carried. -/
def halfway (store : Store) (source target : String) (now : Instant) (done : List String) : Store :=
  { store with
    nodes := (store.nodes.filter fun node => node.path ≠ target).map
      (partway source target now done) }

lemma partway_of_mem (h : node.path ∈ done) :
    partway source target now done node = moved source target now node := if_pos h

lemma partway_of_not_mem (h : node.path ∉ done) :
    partway source target now done node = node := if_neg h

lemma partway_cons_of_ne (h : node.path ≠ path) :
    partway source target now (path :: done) node = partway source target now done node := by
  simp [partway, h]

lemma partway_path :
    (partway source target now done node).path
      = if node.path ∈ done then Path.rebase node.path source target else node.path := by
  simp only [partway]
  split <;> rfl

@[simp] lemma partway_id : (partway source target now done node).id = node.id := by
  simp only [partway]
  split <;> rfl

/-- The numbers still ascend, for no node has got another. -/
lemma ascending_halfway (h : WellFormed store) :
    ((halfway store source target now done).nodes.map Node.id).Pairwise (· < ·) := by
  have hsame : (halfway store source target now done).nodes.map Node.id
      = (store.nodes.filter fun node => node.path ≠ target).map Node.id := by
    rw [halfway, List.map_map]
    exact List.map_congr_left fun _ _ => partway_id
  rw [hsame]
  exact h.ascending.sublist (List.filter_sublist.map Node.id)

/-- A node among those that are not at the target, and the others, whose paths are all different. -/
lemma exists_split (h : WellFormed store) (hnode : node ∈ store.nodes)
    (hfree : node.path ≠ target) :
    ∃ front back, (store.nodes.filter fun node => node.path ≠ target) = front ++ node :: back
      ∧ ∀ other ∈ front ++ back,
        other ∈ store.nodes ∧ other.path ≠ target ∧ other.path ≠ node.path := by
  have hkept : node ∈ store.nodes.filter fun node => node.path ≠ target :=
    List.mem_filter.mpr ⟨hnode, decide_eq_true hfree⟩
  obtain ⟨front, back, hsplit⟩ := List.append_of_mem hkept
  refine ⟨front, back, hsplit, fun other hmem => ?_⟩
  have hin : other ∈ store.nodes.filter fun node => node.path ≠ target := by
    rw [hsplit]
    exact ((List.sublist_cons_self node back).append_left front).mem hmem
  have hkeys : ((store.nodes.filter fun node => node.path ≠ target).map Node.path).Nodup :=
    h.keys.sublist (List.filter_sublist.map Node.path)
  rw [hsplit, List.map_append, List.map_cons, List.nodup_middle, ← List.map_append,
    List.nodup_cons] at hkeys
  obtain ⟨hstored, hnot⟩ := List.mem_filter.mp hin
  exact ⟨hstored, of_decide_eq_true hnot, fun hsame => hkeys.1 (hsame ▸ List.mem_map_of_mem hmem)⟩

lemma mem_moving :
    path ∈ InPlace.moving store source
      ↔ (∃ node ∈ store.nodes, node.path = path)
        ∧ (path = source ∨ Path.isBelow path source = true) := by
  simp only [InPlace.moving, List.mem_map, List.mem_filter, movesWith_iff]
  constructor
  · rintro ⟨node, ⟨hnode, hmoves⟩, rfl⟩
    exact ⟨⟨node, hnode, rfl⟩, hmoves⟩
  · rintro ⟨⟨node, hnode, rfl⟩, hmoves⟩
    exact ⟨node, ⟨hnode, hmoves⟩, rfl⟩

lemma nodup_moving (h : WellFormed store) : (InPlace.moving store source).Nodup :=
  h.keys.sublist (List.filter_sublist.map Node.path)

namespace Movable

/-- **At no moment do two nodes have the same path.** -/
lemma partway_inj (now : Instant) (hmove : Movable store source target) (h : WellFormed store)
    (hdone : ∀ path ∈ done, path ∈ InPlace.moving store source) {a b : Node}
    (ha : a ∈ store.nodes) (hb : b ∈ store.nodes) (hat : a.path ≠ target) (hbt : b.path ≠ target)
    (heq : (partway source target now done a).path = (partway source target now done b).path) :
    a.path = b.path := by
  rw [partway_path, partway_path] at heq
  exact hmove.inj_of_carried h (fun path hpath => (mem_moving.mp (hdone path hpath)).2) ha hb hat
    hbt heq

/-- The target does not move. -/
lemma ne_target (hmove : Movable store source target)
    (hmoves : path = source ∨ Path.isBelow path source = true) : path ≠ target := by
  rintro rfl
  rcases hmoves with hsame | hbelow
  · exact hmove.differs hsame.symm
  · rw [hmove.outside] at hbelow
    exact Bool.noConfusion hbelow

/-- **One step of a move**: one more path has been carried, and nothing else has changed. -/
theorem carry_halfway (hmove : Movable store source target) (h : WellFormed store)
    (hdone : ∀ path ∈ done, path ∈ InPlace.moving store source)
    (hpath : path ∈ InPlace.moving store source) (hopen : path ∉ done) :
    carry source target now (halfway store source target now done) path
      = halfway store source target now (path :: done) := by
  obtain ⟨⟨node, hnode, rfl⟩, hmoves⟩ := mem_moving.mp hpath
  have hfree := hmove.ne_target hmoves
  obtain ⟨front, back, hsplit, hother⟩ := exists_split h hnode hfree
  have hcons : ∀ other ∈ front ++ back, partway source target now (node.path :: done) other
      = partway source target now done other :=
    fun other hmem => partway_cons_of_ne (hother other hmem).2.2
  have hstep : ∀ path ∈ node.path :: done, path ∈ InPlace.moving store source :=
    List.forall_mem_cons.mpr ⟨hpath, hdone⟩
  have hmid : (halfway store source target now done).nodes
      = front.map (partway source target now done)
        ++ node :: back.map (partway source target now done) := by
    rw [halfway, hsplit, List.map_append, List.map_cons, partway_of_not_mem hopen]
  rw [carry_of_split hmid (ascending_halfway h)]
  · simp only [halfway, hsplit, List.map_append, List.map_cons,
      partway_of_mem (List.mem_cons_self : node.path ∈ node.path :: done)]
    rw [List.map_congr_left fun other hmem => hcons other (List.mem_append_left back hmem),
      List.map_congr_left fun other hmem => hcons other (List.mem_append_right front hmem)]
  · -- no other node stands where this one leaves
    rw [← List.map_append]
    intro other hmem hsame
    obtain ⟨before, hbefore, rfl⟩ := List.mem_map.mp hmem
    obtain ⟨hstored, hnot, hne⟩ := hother before hbefore
    refine hne (hmove.partway_inj now h hdone hstored hnode hnot hfree ?_)
    rw [hsame, partway_of_not_mem hopen]
  · -- nor where it goes
    rw [← List.map_append]
    intro other hmem hsame
    obtain ⟨before, hbefore, rfl⟩ := List.mem_map.mp hmem
    obtain ⟨hstored, hnot, hne⟩ := hother before hbefore
    refine hne (hmove.partway_inj now h hstep hstored hnode hnot hfree ?_)
    rw [hcons before hbefore, hsame, partway_of_mem List.mem_cons_self]
    rfl

/-! ## The whole way -/

/-- By induction on the paths that are still to be carried. -/
theorem foldl_carry_halfway (hmove : Movable store source target) (h : WellFormed store)
    (order done : List String) (hdone : ∀ path ∈ done, path ∈ InPlace.moving store source)
    (horder : ∀ path ∈ order, path ∈ InPlace.moving store source)
    (honce : (order ++ done).Nodup) :
    order.foldl (carry source target now) (halfway store source target now done)
      = halfway store source target now (order.reverse ++ done) := by
  induction order generalizing done with
  | nil => rfl
  | cons path rest ih =>
      obtain ⟨hpath, hrest⟩ := List.forall_mem_cons.mp horder
      rw [List.cons_append, ← List.nodup_middle] at honce
      have hopen : path ∉ done := by
        rw [List.nodup_append'] at honce
        exact (List.nodup_cons.mp honce.2.1).1
      rw [List.foldl_cons, hmove.carry_halfway h hdone hpath hopen,
        ih (path :: done) (List.forall_mem_cons.mpr ⟨hpath, hdone⟩) hrest honce,
        List.reverse_cons, List.append_assoc, List.singleton_append]

end Movable

/-- The order in which nodes are carried makes no difference to where they end. -/
theorem foldl_carry_eq_rename (h : WellFormed store) (htarget : IsNormal target)
    (hne : source ≠ target) (horder : order.Perm (InPlace.moving store source))
    (hrename : store.rename source target now = .ok after) :
    order.foldl (carry source target now) (store.erase target) = after := by
  have hmove := movable_of_rename h htarget hne hrename
  have hstart : store.erase target = halfway store source target now [] := by
    have hnone : partway source target now [] = id :=
      funext fun node => partway_of_not_mem List.not_mem_nil
    rw [halfway, hnone, List.map_id, erase]
  obtain ⟨_, _, _, _, _, _, _, rfl⟩ := (rename_eq_ok_iff hne).mp hrename
  have honce : (order ++ []).Nodup := by
    rw [List.append_nil]
    exact horder.nodup_iff.mpr (nodup_moving h)
  rw [hstart, hmove.foldl_carry_halfway h order [] (fun _ hnil => absurd hnil List.not_mem_nil)
    (fun path hpath => horder.mem_iff.mp hpath) honce, List.append_nil, halfway]
  congr 1
  refine List.map_congr_left fun node hnode => ?_
  have hall : node.path ∈ order.reverse ↔ movesWith source node = true := by
    rw [List.mem_reverse, horder.mem_iff, mem_moving, movesWith_iff]
    exact and_iff_right ⟨node, (List.mem_filter.mp hnode).1, rfl⟩
  by_cases hmoves : movesWith source node = true
  · rw [partway_of_mem (hall.mpr hmoves), if_pos hmoves]
  · rw [partway_of_not_mem (mt hall.mp hmoves), if_neg hmoves]

end VirtualShell.Store
