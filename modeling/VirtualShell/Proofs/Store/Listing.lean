import Mathlib.Data.List.Perm.Lattice
import Mathlib.Data.List.Sort
import VirtualShell.Proofs.Path.Subtree
import VirtualShell.Proofs.Store.Run
import VirtualShell.Proofs.Text.ByteOrder

/-!
# Two views of a tree

A store answers what is in a directory in two ways that share nothing but the nodes.  `children`
goes by the parents of paths and by the numbers of nodes; `descendants` goes by the beginnings of
paths and by their order.  They show one and the same tree.

**What is listed.**  The children of a directory are the nodes whose parent it is (`mem_children`),
and its descendants are what listing children reaches in one or more steps
(`mem_descendants_iff_reaches`).  A step down is found for each step up, because the parent of a
node is there.

**How often, and in which order.**  Each node once: the descendants of a directory are its children
and, apart from each other, the descendants of each of them (`descendants_perm`).  They come in the
order of the bytes of their paths, so a directory comes before all it holds.  The order in which a
map happens to enumerate its nodes has no part in either view (`mergeSort_children_of_perm`,
`descendants_of_perm`).

`listings_agree` puts this together for every store that can be reached.
-/

namespace VirtualShell.Store

open Time (Instant)

open VirtualShell.Path (IsNormal)

variable {store : Store} {dir : String} {node child : Node}

/-! ## What is listed -/

/-- What is reached from a path by listing children, one or more levels down. -/
inductive Reaches (store : Store) (dir : String) : Node → Prop where
  | child {node : Node} (listed : node ∈ store.children dir) : Reaches store dir node
  | deeper {up node : Node} (reached : Reaches store dir up)
      (listed : node ∈ store.children up.path) : Reaches store dir node

lemma mem_descendants :
    node ∈ store.descendants dir ↔ node ∈ store.nodes ∧ Path.isBelow node.path dir = true := by
  rw [descendants, List.mem_mergeSort, List.mem_filter]

/-- The paths decide on the order alone. -/
lemma map_path_descendants : (store.descendants dir).map Node.path
    = ((store.nodes.map Node.path).filter fun path => Path.isBelow path dir).mergeSort := by
  rw [List.filter_map]
  exact List.map_mergeSort fun _ _ _ _ => rfl

/-- Nothing is its own parent, so that `children` leaves the directory itself out goes without
saying. -/
lemma children_eq_filter (hdir : IsNormal dir) :
    store.children dir = store.nodes.filter fun node => Path.parent? node.path = some dir := by
  have hnormal : Path.normalize dir = dir := hdir
  simp only [children, hnormal]
  refine List.filter_congr fun node _ => ?_
  rw [Bool.and_eq_right_iff_imp, decide_eq_true_eq, decide_eq_true_eq]
  rintro hparent rfl
  have hloop : Path.isBelow node.path node.path = true :=
    (Path.isBelow_iff_parent hdir hdir).mpr ⟨_, hparent, Or.inl rfl⟩
  rw [Path.isBelow_irrefl hdir] at hloop
  exact Bool.noConfusion hloop

lemma mem_children (hdir : IsNormal dir) :
    node ∈ store.children dir ↔ node ∈ store.nodes ∧ Path.parent? node.path = some dir := by
  rw [children_eq_filter hdir, List.mem_filter, decide_eq_true_eq]

/-- Sorted by a key that tells them apart, nodes come in strictly rising order. -/
lemma mergeSort_increasing {κ : Type} [LE κ] [LT κ] [DecidableLE κ] [Std.IsLinearOrder κ]
    [Std.LawfulOrderLT κ] (key : Node → κ) {nodes : List Node} (hkeys : (nodes.map key).Nodup) :
    (nodes.mergeSort fun a b => decide (key a ≤ key b)).Pairwise fun a b => key a < key b := by
  have hsorted : (nodes.mergeSort fun a b => decide (key a ≤ key b)).Pairwise
      fun a b => key a ≤ key b := by
    refine (List.pairwise_mergeSort ?_ ?_ nodes).imp of_decide_eq_true
    · exact fun a b c hab hbc =>
        decide_eq_true (Std.le_trans (of_decide_eq_true hab) (of_decide_eq_true hbc))
    · intro a b
      rw [Bool.or_eq_true, decide_eq_true_eq, decide_eq_true_eq]
      exact Std.le_total
  have hdistinct : ((nodes.mergeSort fun a b => decide (key a ≤ key b)).map key).Nodup :=
    ((List.mergeSort_perm nodes _).map key).nodup_iff.mpr hkeys
  exact hsorted.imp₂ (fun _ _ hle hne => Std.lt_of_le_of_ne hle hne)
    (List.pairwise_map.mp hdistinct)

namespace WellFormed

lemma isNormal_of_mem_children (h : WellFormed store) (hdir : IsNormal dir)
    (hchild : child ∈ store.children dir) : IsNormal child.path :=
  h.normal child ((mem_children hdir).mp hchild).1

lemma mem_descendants_of_mem_children (h : WellFormed store) (hdir : IsNormal dir)
    (hchild : child ∈ store.children dir) : child ∈ store.descendants dir := by
  obtain ⟨hnode, hparent⟩ := (mem_children hdir).mp hchild
  exact mem_descendants.mpr ⟨hnode,
    (Path.isBelow_iff_parent (h.normal child hnode) hdir).mpr ⟨dir, hparent, Or.inl rfl⟩⟩

lemma mem_descendants_trans (h : WellFormed store) (hdir : IsNormal dir) {up : Node}
    (hup : up ∈ store.descendants dir) (hnode : node ∈ store.descendants up.path) :
    node ∈ store.descendants dir := by
  rw [mem_descendants] at hup hnode ⊢
  exact ⟨hnode.1, Path.isBelow_trans (h.normal node hnode.1) (h.normal up hup.1) hdir hnode.2
    hup.2⟩

/-- The proof goes up from the node: its parent is there, and is the path or lies below it. -/
lemma reaches_of_isBelow (h : WellFormed store) (hdir : IsNormal dir) (hnode : node ∈ store.nodes)
    (hbelow : Path.isBelow node.path dir = true) : store.Reaches dir node := by
  suffices hall : ∀ path, IsNormal path → ∀ node ∈ store.nodes, node.path = path →
      Path.isBelow path dir = true → store.Reaches dir node from
    hall _ (h.normal node hnode) node hnode rfl hbelow
  intro path hpath
  refine hpath.induction_up ?_ ?_
  · intro node _ _ hbelow
    rw [Path.isBelow_root_left hdir] at hbelow
    exact Bool.noConfusion hbelow
  · intro path up hpath hup ih node hnode hsame hbelow
    subst hsame
    obtain ⟨_, hfound, hplace⟩ := (Path.isBelow_iff_parent hpath hdir).mp hbelow
    obtain rfl := Option.some_inj.mp (hup.symm.trans hfound)
    rcases hplace with rfl | habove
    · exact .child ((mem_children hdir).mpr ⟨hnode, hup⟩)
    · obtain ⟨above, hget, -⟩ := isDirectory_iff.mp (h.parents node hnode up hup)
      have hchild : node ∈ store.children above.path := by
        rw [mem_children (h.normal above (mem_of_get? hget)), path_of_get? hget]
        exact ⟨hnode, hup⟩
      exact .deeper (ih above (mem_of_get? hget) (path_of_get? hget) habove) hchild

/-- **The descendants of a path are what listing children reaches.** -/
theorem mem_descendants_iff_reaches (h : WellFormed store) (hdir : IsNormal dir) :
    node ∈ store.descendants dir ↔ store.Reaches dir node := by
  constructor
  · intro hnode
    obtain ⟨hmem, hbelow⟩ := mem_descendants.mp hnode
    exact h.reaches_of_isBelow hdir hmem hbelow
  · intro hreaches
    induction hreaches with
    | child listed => exact h.mem_descendants_of_mem_children hdir listed
    | @deeper up node reached listed ih =>
        have hup : IsNormal up.path := h.normal up (mem_descendants.mp ih).1
        exact h.mem_descendants_trans hdir ih (h.mem_descendants_of_mem_children hup listed)

/-- What listing children reaches is a child, or is reached from one. -/
lemma mem_descendants_iff_child (h : WellFormed store) (hdir : IsNormal dir) :
    node ∈ store.descendants dir
      ↔ ∃ child ∈ store.children dir, node = child ∨ node ∈ store.descendants child.path := by
  constructor
  · intro hnode
    have hreaches := (h.mem_descendants_iff_reaches hdir).mp hnode
    clear hnode
    induction hreaches with
    | @child node listed => exact ⟨node, listed, Or.inl rfl⟩
    | @deeper up node reached listed ih =>
        obtain ⟨child, hchild, rfl | hdeeper⟩ := ih
        · exact ⟨up, hchild, Or.inr (h.mem_descendants_of_mem_children
            (h.isNormal_of_mem_children hdir hchild) listed)⟩
        · have hup : IsNormal up.path := h.normal up (mem_descendants.mp hdeeper).1
          exact ⟨child, hchild, Or.inr (h.mem_descendants_trans
            (h.isNormal_of_mem_children hdir hchild) hdeeper
            (h.mem_descendants_of_mem_children hup listed))⟩
  · rintro ⟨child, hchild, rfl | hdeeper⟩
    · exact h.mem_descendants_of_mem_children hdir hchild
    · exact h.mem_descendants_trans hdir (h.mem_descendants_of_mem_children hdir hchild) hdeeper

/-! ## In which order -/

lemma children_ascending (h : WellFormed store) (dir : String) :
    (store.children dir).Pairwise fun a b => a.id < b.id :=
  (List.pairwise_map.mp h.ascending).sublist List.filter_sublist

lemma nodup_children (h : WellFormed store) (dir : String) : (store.children dir).Nodup :=
  (h.children_ascending dir).imp fun hlt heq => Nat.ne_of_lt hlt (congrArg Node.id heq)

lemma descendants_increasing (h : WellFormed store) (dir : String) :
    (store.descendants dir).Pairwise fun a b => a.path < b.path :=
  mergeSort_increasing Node.path (h.keys.sublist (List.filter_sublist.map Node.path))

lemma nodup_descendants (h : WellFormed store) (dir : String) : (store.descendants dir).Nodup :=
  (h.descendants_increasing dir).imp fun hlt heq => String.ne_of_lt hlt (congrArg Node.path heq)

/-- A directory comes before all it holds, because its path is a beginning of theirs. -/
lemma descendants_topDown (h : WellFormed store) (dir : String) :
    (store.descendants dir).Pairwise fun a b => Path.isBelow a.path b.path = false := by
  refine (h.descendants_increasing dir).imp_of_mem fun {a b} ha hb hlt => ?_
  rw [Bool.eq_false_iff]
  intro hbelow
  exact String.lt_asymm hlt (Path.lt_of_isBelow (h.normal a (mem_descendants.mp ha).1)
    (h.normal b (mem_descendants.mp hb).1) hbelow)

/-! ## How often -/

/-- A node and its descendants are what stands at its path or below. -/
lemma mem_cons_descendants (h : WellFormed store) {top : Node} (htop : top ∈ store.nodes) :
    node ∈ top :: store.descendants top.path ↔ node ∈ store.nodes
      ∧ (node.path = top.path ∨ Path.isBelow node.path top.path = true) := by
  have hself : node = top ↔ node ∈ store.nodes ∧ node.path = top.path := by
    rw [← h.get?_eq_some_iff, h.get?_of_mem htop, Option.some_inj, eq_comm]
  rw [List.mem_cons, hself, mem_descendants, ← and_or_left]

/-- A node comes before all that is below it. -/
lemma cons_descendants_increasing (h : WellFormed store) {top : Node} (htop : top ∈ store.nodes) :
    (top :: store.descendants top.path).Pairwise fun a b => a.path < b.path := by
  refine List.pairwise_cons.mpr ⟨fun node hnode => ?_, h.descendants_increasing top.path⟩
  obtain ⟨hmem, hbelow⟩ := mem_descendants.mp hnode
  exact Path.lt_of_isBelow (h.normal node hmem) (h.normal top htop) hbelow

lemma nodup_cons_descendants (h : WellFormed store) {top : Node} (htop : top ∈ store.nodes) :
    (top :: store.descendants top.path).Nodup := by
  refine List.nodup_cons.mpr ⟨?_, h.nodup_descendants top.path⟩
  rw [mem_descendants, Path.isBelow_irrefl (h.normal top htop)]
  simp

/-- Two children have nothing in common, neither themselves nor what lies below them. -/
lemma disjoint_children (h : WellFormed store) (hdir : IsNormal dir) {other : Node}
    (hchild : child ∈ store.children dir) (hother : other ∈ store.children dir)
    (hne : child ≠ other) :
    List.Disjoint (child :: store.descendants child.path)
      (other :: store.descendants other.path) := by
  obtain ⟨hmem, hup⟩ := (mem_children hdir).mp hchild
  obtain ⟨hmem', hup'⟩ := (mem_children hdir).mp hother
  have hnormal := h.normal child hmem
  have hnormal' := h.normal other hmem'
  rw [List.disjoint_left]
  intro node hin hin'
  obtain ⟨hnode, hunder⟩ := (h.mem_cons_descendants hmem).mp hin
  obtain ⟨-, hunder'⟩ := (h.mem_cons_descendants hmem').mp hin'
  rcases Path.nested_of_common (h.normal node hnode) hnormal hnormal' hunder hunder' with
    hsame | hbelow | hbelow
  · exact hne (List.inj_on_of_nodup_map h.keys hmem hmem' hsame)
  · rw [Path.not_isBelow_sibling hnormal hnormal' hup hup'] at hbelow
    exact Bool.noConfusion hbelow
  · rw [Path.not_isBelow_sibling hnormal' hnormal hup' hup] at hbelow
    exact Bool.noConfusion hbelow

/-- **The descendants of a path are its children and theirs**, each once. -/
theorem descendants_perm (h : WellFormed store) (hdir : IsNormal dir) :
    (store.descendants dir).Perm
      ((store.children dir).flatMap fun child => child :: store.descendants child.path) := by
  have hnodup : ((store.children dir).flatMap fun child =>
      child :: store.descendants child.path).Nodup :=
    List.nodup_flatMap.mpr
      ⟨fun child hchild => h.nodup_cons_descendants ((mem_children hdir).mp hchild).1,
        (h.nodup_children dir).pairwise_of_forall_ne
          fun child hchild other hother hne => h.disjoint_children hdir hchild hother hne⟩
  rw [List.perm_ext_iff_of_nodup (h.nodup_descendants dir) hnodup]
  intro node
  simp [h.mem_descendants_iff_child hdir]

/-- The root and its descendants are all there is. -/
lemma nodes_perm (h : WellFormed store) :
    ∃ root, store.get? "/" = some root ∧ store.nodes.Perm (root :: store.descendants "/") := by
  obtain ⟨root, hroot, -⟩ := isDirectory_iff.mp h.root
  have hmem := mem_of_get? hroot
  refine ⟨root, hroot, ?_⟩
  rw [← path_of_get? hroot, List.perm_ext_iff_of_nodup (List.Nodup.of_map _ h.keys)
    (h.nodup_cons_descendants hmem)]
  intro node
  rw [h.mem_cons_descendants hmem, path_of_get? hroot]
  simp [Path.isBelow, em]

/-- Nothing lies below a file. -/
lemma descendants_eq_nil (h : WellFormed store) (hnode : node ∈ store.nodes)
    (hfile : node.isDirectory = false) : store.descendants node.path = [] := by
  rw [List.eq_nil_iff_forall_not_mem]
  intro inner hinner
  obtain ⟨hmem, hbelow⟩ := mem_descendants.mp hinner
  have hthere := h.isDirectory_of_isBelow hmem (h.normal node hnode) hbelow
  rw [Store.isDirectory, h.get?_of_mem hnode, Option.any_some, hfile] at hthere
  exact Bool.noConfusion hthere

/-! ## Whatever the order of the nodes -/

variable {other : Store}

/-- A directory's children, taken from the same nodes in any order and sorted by their numbers. -/
theorem mergeSort_children_of_perm (h : WellFormed store) (hdir : IsNormal dir)
    (hperm : other.nodes.Perm store.nodes) :
    ((other.children dir).mergeSort fun a b => decide (a.id ≤ b.id)) = store.children dir := by
  have hids : (other.nodes.map Node.id).Nodup :=
    (hperm.map Node.id).nodup_iff.mpr (h.ascending.imp Nat.ne_of_lt)
  refine List.Perm.eq_of_pairwise (fun a b _ _ hab hba => absurd hab (Nat.lt_asymm hba))
    (mergeSort_increasing Node.id (hids.sublist (List.filter_sublist.map Node.id)))
    (h.children_ascending dir) ?_
  rw [children_eq_filter hdir, children_eq_filter hdir]
  exact (List.mergeSort_perm _ _).trans (hperm.filter _)

/-- The descendants of a path, taken from the same nodes in any order. -/
theorem descendants_of_perm (h : WellFormed store) (dir : String)
    (hperm : other.nodes.Perm store.nodes) :
    other.descendants dir = store.descendants dir := by
  have hkeys : (other.nodes.map Node.path).Nodup := (hperm.map Node.path).nodup_iff.mpr h.keys
  exact List.Perm.eq_of_pairwise (fun a b _ _ hab hba => absurd hab (String.lt_asymm hba))
    (mergeSort_increasing Node.path (hkeys.sublist (List.filter_sublist.map Node.path)))
    (h.descendants_increasing dir)
    ((List.mergeSort_perm _ _).trans ((hperm.filter _).trans (List.mergeSort_perm _ _).symm))

end WellFormed

/-! ## Reachable stores -/

/-- What the two views of a path have to do with the tree and with each other. -/
structure Listed (store : Store) (dir : String) : Prop where
  children : ∀ node,
    node ∈ store.children dir ↔ node ∈ store.nodes ∧ Path.parent? node.path = some dir
  byNumber : (store.children dir).Pairwise fun a b => a.id < b.id
  descendants : ∀ node, node ∈ store.descendants dir ↔ store.Reaches dir node
  /-- The descendants are the children and theirs. -/
  split : (store.descendants dir).Perm
    ((store.children dir).flatMap fun child => child :: store.descendants child.path)
  /-- No child is among the descendants of a child, and no two children share any. -/
  apart : ((store.children dir).flatMap fun child =>
    child :: store.descendants child.path).Nodup
  byPath : (store.descendants dir).Pairwise fun a b =>
    Text.bytesOf a.path < Text.bytesOf b.path
  /-- What comes first is not below what comes later. -/
  topDown : (store.descendants dir).Pairwise fun a b => Path.isBelow a.path b.path = false
  /-- A map may hand out its nodes in any order. -/
  anyOrder : ∀ other : Store, other.nodes.Perm store.nodes →
    ((other.children dir).mergeSort fun a b => decide (a.id ≤ b.id)) = store.children dir
      ∧ other.descendants dir = store.descendants dir

lemma WellFormed.listed (h : WellFormed store) (hdir : IsNormal dir) : Listed store dir where
  children _ := mem_children hdir
  byNumber := h.children_ascending dir
  descendants _ := h.mem_descendants_iff_reaches hdir
  split := h.descendants_perm hdir
  apart := (h.descendants_perm hdir).nodup_iff.mp (h.nodup_descendants dir)
  byPath := (h.descendants_increasing dir).imp Text.bytesOf_lt_iff.mpr
  topDown := h.descendants_topDown dir
  anyOrder _ hperm := ⟨h.mergeSort_children_of_perm hdir hperm, h.descendants_of_perm dir hperm⟩

/-- **The two views agree** in every store that can be reached, at every path in normal form,
occupied or not, and in whatever order the nodes are handed out; and the root with its descendants
is all there is. -/
theorem listings_agree (limits : Limits) (start : Instant) (calls : List (Instant × Call))
    (hproper : ∀ entry ∈ calls, entry.2.Proper) :
    (∀ dir, IsNormal dir → Listed ((new limits start).run calls) dir)
      ∧ 1 + (((new limits start).run calls).descendants "/").length
        = ((new limits start).run calls).size := by
  have h := wellFormed_run limits start hproper
  refine ⟨fun dir hdir => h.listed hdir, ?_⟩
  obtain ⟨root, -, hperm⟩ := h.nodes_perm
  rw [size, hperm.length_eq, List.length_cons, Nat.add_comm]

/-- A name that the order of bytes puts between a directory and what it holds, since `-` comes
before the slash; by number it comes last. -/
theorem listings_agree_of_interleaved :
    let store := (new {} ⟨0, 0⟩).run
      [(⟨1, 0⟩, .create (.directory "/home/user/b")),
       (⟨2, 0⟩, .create (.file "/home/user/b/x" "text")),
       (⟨3, 0⟩, .create (.directory "/home/user/Projects/a-b")),
       (⟨4, 0⟩, .rename "/home/user/b" "/home/user/Projects/a")]
    Listed store "/home/user/Projects"
      ∧ 1 + (store.descendants "/").length = store.size
      ∧ (store.descendants "/home/user/Projects").map Node.path
        = ["/home/user/Projects/a", "/home/user/Projects/a-b", "/home/user/Projects/a/x"] := by
  intro store
  have hagree := listings_agree {} ⟨0, 0⟩
    [(⟨1, 0⟩, .create (.directory "/home/user/b")),
     (⟨2, 0⟩, .create (.file "/home/user/b/x" "text")),
     (⟨3, 0⟩, .create (.directory "/home/user/Projects/a-b")),
     (⟨4, 0⟩, .rename "/home/user/b" "/home/user/Projects/a")] ?_
  · have hbelow : (store.nodes.map Node.path).filter
        (fun path => Path.isBelow path "/home/user/Projects")
          = ["/home/user/Projects/a", "/home/user/Projects/a/x", "/home/user/Projects/a-b"] := by
      decide +kernel
    refine ⟨hagree.1 _ (by decide), hagree.2, ?_⟩
    rw [map_path_descendants, hbelow, List.mergeSort_eq_insertionSort]
    decide +kernel
  · simp only [List.forall_mem_cons, List.not_mem_nil, false_implies, implies_true, and_true]
    refine ⟨.directory _, .file _ _, .directory _, ?_⟩
    show IsNormal "/home/user/Projects/a"
    decide

end VirtualShell.Store
