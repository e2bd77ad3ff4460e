import VirtualShell.Proofs.Command.Files
import VirtualShell.Proofs.Store.Listing

/-!
# What a copy writes

`cp` takes the nodes of a subtree from the store as it was, writes them one after the other into the
store as it is, and stops at the first that fails.  So a copy may land on nodes that are still to be
copied, and may be left half done.

**Where it writes.**  The subtree has an image for each of its nodes (`IsImage`), two nodes have
never the same, and nothing is written elsewhere.

**What it writes.**  A copy is all its original was but for its number, its place and its times
(`Node.CopyOf`), and no later copy writes over it.

`copyTree_exact` states this of the loop.  `run_cp` leads the command back to it, so that
`cp_copied` says what a copy leaves whether it succeeds or not.
-/

namespace VirtualShell

open VirtualShell.Path (IsNormal)

open Store (Safe WellFormed)

/-- What a copy has of its original. -/
structure Node.CopyOf (copy original : Node) : Prop where
  kind : copy.kind = original.kind
  content : copy.body.content? = original.body.content?
  size : copy.size = original.size
  permissions : copy.permissions = original.permissions

namespace Command

variable {call : Invocation} {store : Store} {source : Node} {target : String}

/-- A path that a copy of a subtree writes to: where a node of the subtree goes. -/
def IsImage (store : Store) (source target path : String) : Prop :=
  ∃ old, store.contains old = true ∧ (old = source ∨ Path.isBelow old source = true)
    ∧ path = Path.rebase old source target

/-- The operands of a copy pass its checks: there are two, the first is there, and the target is
neither the source nor below a directory that should be copied. -/
structure Copying (call : Invocation) (store : Store) (source : Node) (target : String) : Prop where
  operands : ∃ flags here there, splitFlags "rRpf" call.args = .ok ⟨flags, [here, there]⟩
    ∧ store.get? (call.resolve here) = some source
    ∧ target = if store.isDirectory (call.resolve there)
        then Path.join (call.resolve there) source.name else call.resolve there
  elsewhere : target ≠ source.path
  outside : source.isDirectory = true → Path.isBelow target source.path = false

namespace Copying

variable (h : Copying call store source target)

include h

lemma mem_nodes : source ∈ store.nodes := by
  obtain ⟨_, _, _, -, hget, -⟩ := h.operands
  exact Store.mem_of_get? hget

/-- The root is never copied: all other paths lie below it. -/
lemma source_ne_root (hstore : WellFormed store) : source.path ≠ "/" := by
  intro hroot
  have hget := hstore.get?_of_mem h.mem_nodes
  obtain ⟨found, hfound, hbody⟩ := Store.isDirectory_iff.mp hstore.root
  rw [hroot, hfound, Option.some_inj] at hget
  have houtside := h.outside (hget ▸ Node.isDirectory_iff.mpr hbody)
  have helsewhere := h.elsewhere
  rw [hroot] at houtside helsewhere
  simp [Path.isBelow, helsewhere] at houtside

lemma isNormal_target (hstore : WellFormed store) : IsNormal target := by
  obtain ⟨_, _, there, -, -, htarget⟩ := h.operands
  rw [htarget]
  exact isNormal_transferTarget (hstore.accurate source h.mem_nodes)
    (hstore.normal source h.mem_nodes) (h.source_ne_root hstore)
    (Path.isNormal_resolve _ _)

end Copying

/-! ## One node -/

/-- A copy changes nothing but what is at its own path, and if it succeeds, it stands there with the
body and the permissions of its original. -/
lemma copyNode_exact (now : Time.Instant) (node : Node) (store : Store) (htarget : IsNormal target) :
    (∀ path, path ≠ target → (copyNode now node target store).2.get? path = store.get? path)
      ∧ ((copyNode now node target store).1 = .ok () →
        ∃ copy, (copyNode now node target store).2.get? target = some copy
          ∧ copy.body = node.body ∧ copy.permissions = node.permissions) := by
  obtain ⟨draft, hpath, hbody, -, hcopy⟩ := copyNode_eq now node target store
  rw [show Path.normalize target = target from htarget] at hpath
  rw [hcopy]
  cases hupsert : store.upsert draft now with
  | error failure => simp
  | ok made =>
      obtain ⟨made, middle⟩ := made
      obtain ⟨hmade, hsame, hother, -⟩ := Store.get?_upsert hupsert
      rw [hpath] at hmade hother
      have hplace : made.path = target := Store.path_of_get? hmade
      simp only [Store.update_permissions hmade]
      refine ⟨fun path hne => ?_, fun _ => ⟨_, Store.get?_replace_self hplace hmade,
        hsame.trans hbody, rfl⟩⟩
      rw [Store.get?_replace_of_ne, hother path hne]
      rwa [← hplace] at hne

/-! ## One after the other -/

/-- Nodes whose places differ are copied without regard to each other, and what is copied stays
until the end; by induction on the nodes that are still to be copied. -/
lemma copyNodes_exact (now : Time.Instant) (store : Store) {source target : String}
    {nodes : List Node}
    (hnormal : ∀ node ∈ nodes, IsNormal (Path.rebase node.path source target))
    (hdistinct : nodes.Pairwise fun a b =>
      Path.rebase a.path source target ≠ Path.rebase b.path source target) :
    (∀ path, (∀ node ∈ nodes, path ≠ Path.rebase node.path source target) →
        (copyNodes now source target nodes store).2.get? path = store.get? path)
      ∧ ((copyNodes now source target nodes store).1 = .ok () → ∀ node ∈ nodes,
        ∃ copy, (copyNodes now source target nodes store).2.get?
            (Path.rebase node.path source target) = some copy
          ∧ copy.body = node.body ∧ copy.permissions = node.permissions) := by
  induction nodes generalizing store with
  | nil => simp [copyNodes]
  | cons node rest ih =>
      rw [List.forall_mem_cons] at hnormal
      obtain ⟨hapart, hdistinct⟩ := List.pairwise_cons.mp hdistinct
      obtain ⟨hframe, hcopied⟩ := copyNode_exact now node store hnormal.1
      simp only [copyNodes]
      cases hcopy : copyNode now node (Path.rebase node.path source target) store with
      | mk outcome middle =>
          rw [hcopy] at hframe hcopied
          cases outcome with
          | error failure =>
              simp only [List.forall_mem_cons]
              exact ⟨fun path hpath => hframe path hpath.1, fun h => by simp at h⟩
          | ok =>
              obtain ⟨hrest, hall⟩ := ih middle hnormal.2 hdistinct
              simp only [List.forall_mem_cons]
              refine ⟨fun path hpath => (hrest path hpath.2).trans (hframe path hpath.1),
                fun hdone => ⟨?_, hall hdone⟩⟩
              -- no later copy goes to the place of this one
              rw [hrest _ hapart]
              exact hcopied rfl

/-! ## A subtree -/

/-- A file is copied like a directory with nothing in it. -/
lemma copyTree_eq (now : Time.Instant) (target : String) (h : WellFormed store)
    (hsource : source ∈ store.nodes) :
    copyTree now source target store
      = copyNodes now source.path target (source :: store.descendants source.path) store := by
  simp only [copyTree]
  split
  · rfl
  · rename_i hfile
    rw [h.descendants_eq_nil hsource (Bool.eq_false_iff.mpr hfile)]

/-- **What copying a subtree does.**  Nothing changes but at the images of its nodes, and if the
copy succeeds, at each image there is the copy. -/
theorem copyTree_exact (now : Time.Instant) (h : WellFormed store) (hsource : source ∈ store.nodes)
    (htarget : IsNormal target) :
    (∀ path, ¬ IsImage store source.path target path →
        (copyTree now source target store).2.get? path = store.get? path)
      ∧ ((copyTree now source target store).1 = .ok () →
        ∀ path node, store.get? path = some node →
          path = source.path ∨ Path.isBelow path source.path = true →
            ∃ copy, (copyTree now source target store).2.get?
                (Path.rebase path source.path target) = some copy
              ∧ copy.body = node.body ∧ copy.permissions = node.permissions) := by
  rw [copyTree_eq now target h hsource]
  have hnormal := h.normal source hsource
  have hmem : ∀ node ∈ source :: store.descendants source.path, node ∈ store.nodes
      ∧ (node.path = source.path ∨ Path.isBelow node.path source.path = true) :=
    fun node => (h.mem_cons_descendants hsource).mp
  have hdistinct : (source :: store.descendants source.path).Pairwise fun a b =>
      Path.rebase a.path source.path target ≠ Path.rebase b.path source.path target := by
    refine (h.nodup_cons_descendants hsource).pairwise_of_forall_ne
      fun a ha b hb hne heq => hne ?_
    obtain ⟨ha, hamoves⟩ := hmem a ha
    obtain ⟨hb, hbmoves⟩ := hmem b hb
    exact List.inj_on_of_nodup_map h.keys ha hb
      (Path.rebase_inj (h.normal a ha) (h.normal b hb) hnormal htarget hamoves hbmoves heq)
  obtain ⟨hframe, hall⟩ := copyNodes_exact now store
    (fun node hnode => Path.isNormal_rebase (h.normal node (hmem node hnode).1) hnormal htarget
      (hmem node hnode).2) hdistinct
  refine ⟨fun path hno => hframe path fun node hnode heq => hno ?_,
    fun hdone path node hget hmoves => ?_⟩
  · obtain ⟨hnode, hmoves⟩ := hmem node hnode
    exact ⟨node.path, Store.contains_eq_true_iff.mpr ⟨node, h.get?_of_mem hnode⟩, hmoves, heq⟩
  · obtain ⟨hnode, rfl⟩ := h.get?_eq_some_iff.mp hget
    exact hall hdone node ((h.mem_cons_descendants hsource).mpr ⟨hnode, hmoves⟩)

/-! ## The command -/

/-- What a copy leaves, done or not. -/
structure Copied (before after : Store) (source target : String) (done : Prop) : Prop where
  images : done → ∀ path node, before.get? path = some node →
    path = source ∨ Path.isBelow path source = true →
      ∃ copy, after.get? (Path.rebase path source target) = some copy ∧ copy.CopyOf node
  elsewhere : ∀ path, ¬ IsImage before source target path → after.get? path = before.get? path
  /-- What has been there is there, also at the images. -/
  retains : Store.Retains before after

/-- A copy whose operands pass does what copying the subtree does. -/
lemma run_cp (name : String) (draws : Draws) (h : Copying call store source target) :
    (cp.run call store draws).store = (copyTree call.now source target store).2
      ∧ (((cp.run call store draws).verdict.toReply name).success = true
        ↔ (copyTree call.now source target store).1 = .ok ()) := by
  obtain ⟨flags, here, there, hsplit, hget, htarget⟩ := h.operands
  have hread : (flagsOr call "rRpf" >>= fun arguments =>
      transferOf call store "cp" arguments.operands) = .ok ⟨here, there, source, target⟩ := by
    have hplace : transferTarget store source (call.resolve there) = target := htarget.symm
    simp [flagsOr, hsplit, transferOf, hget, hplace, h.elsewhere.symm, bind, Except.bind]
  have hgo : (source.isDirectory && Path.isBelow target source.path) = false := by
    rw [Bool.and_eq_false_iff, ← Bool.not_eq_true, ← imp_iff_not_or]
    exact h.outside
  simp only [cp, run, hread, copyTransfer, hgo]
  cases hcopy : copyTree call.now source target store with
  | mk outcome after =>
      cases outcome with
      | error failure => simp [Verdict.failed, Verdict.toReply, Reply.failed]
      | ok => simp [Verdict.ok, Verdict.toReply, Reply.ok]

/-- **The effect of `cp`.**  The size of a copy is right because it is that of its body, before and
after. -/
theorem cp_copied (name : String) (draws : Draws) (h : Copying call store source target)
    (hcwd : IsNormal call.cwd) (hsafe : Safe store) :
    Copied store (cp.run call store draws).store source.path target
      (((cp.run call store draws).verdict.toReply name).success = true) := by
  obtain ⟨hstore, hdone⟩ := run_cp name draws h
  have hedited := (gentle_cp call store draws hcwd hsafe).1
  obtain ⟨hframe, hall⟩ := copyTree_exact call.now hsafe.tree h.mem_nodes
    (h.isNormal_target hsafe.tree)
  rw [hstore] at hedited ⊢
  refine ⟨fun hsuccess path node hget hmoves => ?_, hframe, hedited.retains⟩
  obtain ⟨copy, hcopy, hbody, hpermissions⟩ := hall (hdone.mp hsuccess) path node hget hmoves
  have hsize := (hsafe.tree.accurate node (Store.mem_of_get? hget)).size
  have hcopysize := (hedited.safe.tree.accurate copy (Store.mem_of_get? hcopy)).size
  exact ⟨copy, hcopy, ⟨congrArg Body.kind hbody, congrArg Body.content? hbody,
    by rw [hcopysize, hbody, hsize], hpermissions⟩⟩

end Command

end VirtualShell
