import VirtualShell.Command.Beside
import VirtualShell.Proofs.Path.Ancestors
import VirtualShell.Proofs.Shell.Safety

/-!
# Directories with all that is missing above them

`mkdir -p` goes down the way to its target and makes a directory wherever there is nothing.  It may
stop at any step: at a file, or where a limit is reached.  `Attempt` says what it has done wherever
it stops, and is carried from the directory above a target to the target (`exists_attempt`): the
directories that it has made are the first ones that were missing, and nothing else has changed.

The limits are met in one order only.  Of the paths that are missing the `k`-th is checked when `k`
directories have been made, so what the checks will say can be read off the store before the first
of them (`Store.grant`).

Another session may act in between.  The way in which `mkdir -p` provides for that does nothing as
long as nobody does (`makeChainBeside_nobody`); and if the others take no node away, success means
what it means without them (`isDirectory_of_makeChainBeside`).
-/

namespace VirtualShell

open Time (Instant)

open VirtualShell.Path (IsNormal OnWay)

namespace Store

variable {store after : Store} {path up target : String} {node : Node} {missing : List String}
  {made : List Node} {now : Instant}

/-! ## What is missing -/

/-- The limits' verdict on a directory that is made when `count` others have been. -/
def grant (store : Store) (count : Nat) (path : String) : Except Failure Unit := do
  within (store.limits.path? path)
  within (store.limits.nodeCount? (store.size + count) 1)
  within (store.limits.fileSize? Body.directorySize)

/-- No file is on the way to a target. -/
def Clear (store : Store) (target : String) : Prop :=
  ∀ path node, OnWay target path → store.get? path = some node → node.isDirectory = true

lemma clear_root (h : store.isDirectory "/" = true) : store.Clear "/" := by
  intro path node hway hget
  obtain ⟨found, hfound, hbody⟩ := isDirectory_iff.mp h
  rw [OnWay.root_iff.mp hway, hfound, Option.some_inj] at hget
  exact hget ▸ Node.isDirectory_iff.mpr hbody

lemma Clear.of_parent? (hup : Path.parent? target = some up) (h : store.Clear up)
    (htarget : ∀ node, store.get? target = some node → node.isDirectory = true) :
    store.Clear target := by
  intro path node hway hget
  rcases (OnWay.iff_of_parent? hup).mp hway with rfl | hway
  · exact htarget node hget
  · exact h path node hway hget

/-- The paths on the way to a target where there is nothing, from the top down. -/
structure Missing (store : Store) (target : String) (missing : List String) : Prop where
  mem : ∀ path, path ∈ missing ↔ OnWay target path ∧ store.get? path = none
  topDown : missing.Pairwise fun upper lower => Path.isBelow lower upper = true

namespace Missing

lemma root (h : store.isDirectory "/" = true) : Missing store "/" [] := by
  obtain ⟨node, hget, -⟩ := isDirectory_iff.mp h
  refine ⟨fun path => ?_, .nil⟩
  rw [OnWay.root_iff]
  simp only [List.not_mem_nil, false_iff]
  rintro ⟨rfl, hnone⟩
  simp [hget] at hnone

lemma of_occupied (hup : Path.parent? target = some up) (hget : store.get? target = some node)
    (h : Missing store up missing) : Missing store target missing := by
  refine ⟨fun path => ?_, h.topDown⟩
  rw [h.mem, OnWay.iff_of_parent? hup]
  constructor
  · exact fun ⟨hway, hnone⟩ => ⟨Or.inr hway, hnone⟩
  · rintro ⟨rfl | hway, hnone⟩
    · simp [hget] at hnone
    · exact ⟨hway, hnone⟩

lemma concat (htarget : IsNormal target) (hup : Path.parent? target = some up)
    (hget : store.get? target = none) (h : Missing store up missing) :
    Missing store target (missing ++ [target]) := by
  refine ⟨fun path => ?_, ?_⟩
  · rw [List.mem_append, List.mem_singleton, h.mem, OnWay.iff_of_parent? hup]
    constructor
    · rintro (⟨hway, hnone⟩ | rfl)
      · exact ⟨Or.inr hway, hnone⟩
      · exact ⟨Or.inl rfl, hget⟩
    · rintro ⟨rfl | hway, hnone⟩
      · exact Or.inr rfl
      · exact Or.inl ⟨hway, hnone⟩
  · refine List.pairwise_append.mpr ⟨h.topDown, List.pairwise_singleton _ _, ?_⟩
    intro upper hupper lower hlower
    rw [List.mem_singleton.mp hlower]
    have hnormal : IsNormal up := htarget.of_parent? hup
    have hway : OnWay up upper := ((h.mem upper).mp hupper).1
    rw [Path.isBelow_iff_parent htarget (hway.isNormal hnormal)]
    exact ⟨up, hup, ((OnWay.iff_isBelow hnormal (hway.isNormal hnormal)).mp hway).imp_left Eq.symm⟩

end Missing

/-! ## One more directory -/

lemma draft_directory_path (hpath : IsNormal path) : (Draft.directory path).path = path := hpath

/-- Under a directory that is there, only the limits are left to ask. -/
lemma create_directory_eq (now : Instant) (hpath : IsNormal path)
    (hup : Path.parent? path = some up) (hdir : store.isDirectory up = true)
    (hfree : store.get? path = none) :
    store.create (.directory path) now
      = (store.grant 0 path).map fun _ => store.insert (.directory path) now := by
  have hcontains : store.contains path = false := contains_eq_false_iff.mpr hfree
  have hparent : store.checkParent path = .ok () := checkParent_eq_ok_iff.mpr ⟨up, hup, hdir⟩
  have hchecks : store.checkNew (.directory path) = store.grant 0 path := by
    rw [checkNew, draft_directory_path hpath, hparent]
    rfl
  rw [create, draft_directory_path hpath, hcontains, hchecks]
  cases store.grant 0 path <;> rfl

lemma WellFormed.insert_directory (now : Instant) (h : store.WellFormed) (hpath : IsNormal path)
    (hup : Path.parent? path = some up) (hdir : store.isDirectory up = true)
    (hfree : store.get? path = none) : (store.insert (.directory path) now).2.WellFormed := by
  have hsame : (Draft.directory path).path = path := draft_directory_path hpath
  refine h.insert ?_ ?_ ?_ <;> rw [hsame]
  · exact hpath
  · exact hfree
  · exact checkParent_eq_ok_iff.mpr ⟨up, hup, hdir⟩

/-! ## Directories that have been made -/

/-- A store with more nodes behind those that it had. -/
def withMade (store : Store) (made : List Node) : Store :=
  { store with nodes := store.nodes ++ made, nextId := store.nextId + made.length }

@[simp] lemma withMade_nil : store.withMade [] = store := by simp [withMade]

lemma withMade_concat :
    ((store.withMade made).insert (.directory path) now).2
      = store.withMade (made ++ [((store.withMade made).insert (.directory path) now).1]) := by
  simp [withMade, insert, List.append_assoc, Nat.add_assoc]

lemma grant_withMade {count : Nat} :
    (store.withMade made).grant count path = store.grant (made.length + count) path := by
  simp [grant, withMade, size, Nat.add_assoc]

/-- What has been there is there as it was. -/
lemma get?_withMade (hget : store.get? path = some node) :
    (store.withMade made).get? path = some node := by
  rw [get?] at hget
  simp [get?, withMade, List.find?_append, hget]

lemma get?_withMade_of_not_mem (hpath : path ∉ made.map Node.path) :
    (store.withMade made).get? path = store.get? path := by
  have hnone : made.find? (fun node => node.path = path) = none := by
    simpa using fun node hnode heq => hpath (List.mem_map.mpr ⟨node, hnode, heq⟩)
  simp [get?, withMade, List.find?_append, hnone]

end Store

namespace Command

open Store (Missing)

variable {store after middle : Store} {path up target : String} {node : Node}
  {front back missing : List String} {made : List Node} {outcome : Except Failure Unit}
  {failure : Failure} {now : Instant}

/-! ## Down the way -/

lemma makeChain_append (front back : List String) (store : Store) :
    makeChain now (front ++ back) store
      = match makeChain now front store with
        | (.ok (), middle) => makeChain now back middle
        | (.error failure, middle) => (.error failure, middle) := by
  induction front generalizing store with
  | nil => rfl
  | cons path rest ih =>
      simp only [List.cons_append, makeChain]
      cases store.get? path with
      | some node => cases hdir : node.isDirectory <;> simp [hdir, ih]
      | none => cases store.create (.directory path) now <;> simp [ih]

lemma pathChain_root : pathChain "/" = [] := by decide

lemma pathChain_of_parent? (htarget : IsNormal target) (hup : Path.parent? target = some up) :
    pathChain target = pathChain up ++ [target] := by
  have hroot : target ≠ "/" := by
    rintro rfl
    simp at hup
  simp [pathChain, Path.selfAndAncestors_of_parent? htarget hup, hroot]

lemma mem_pathChain_iff (htarget : IsNormal target) :
    path ∈ pathChain target ↔ path ≠ "/" ∧ OnWay target path := by
  rw [pathChain, List.mem_reverse, List.mem_filter, Path.mem_selfAndAncestors_iff htarget]
  simp [and_comm]

/-- To make a directory with those above it is to make the one above it in this way, and then it
alone. -/
lemma makeWithParents_of_parent? (htarget : IsNormal target)
    (hup : Path.parent? target = some up) :
    makeWithParents store target now
      = match makeWithParents store up now with
        | (.ok (), middle) => makeChain now [target] middle
        | (.error failure, middle) => (.error failure, middle) := by
  rw [makeWithParents, pathChain_of_parent? htarget hup, makeChain_append]
  rfl

/-- Where all is there, nothing is done. -/
lemma makeWithParents_of_isDirectory (htarget : IsNormal target)
    (hthere : ∀ path, OnWay target path → store.isDirectory path = true) :
    makeWithParents store target now = (.ok (), store) := by
  have hchain : ∀ paths : List String, (∀ path ∈ paths, store.isDirectory path = true) →
      makeChain now paths store = (.ok (), store) := by
    intro paths hpaths
    induction paths with
    | nil => rfl
    | cons path rest ih =>
        rw [List.forall_mem_cons] at hpaths
        obtain ⟨node, hget, hbody⟩ := Store.isDirectory_iff.mp hpaths.1
        have hdir : node.isDirectory = true := Node.isDirectory_iff.mpr hbody
        simp only [makeChain, hget, hdir, if_true]
        exact ih hpaths.2
  exact hchain _ fun path hpath => hthere path ((mem_pathChain_iff htarget).mp hpath).2

/-! ## An attempt -/

/-- Why an attempt has ended: all is made, a file is in the way, or the limits forbid the next
directory. -/
inductive Ends (store : Store) (target : String) (missing : List String) (made : List Node) :
    Except Failure Unit → Prop where
  | built (all : made.map Node.path = missing) (clear : store.Clear target) :
      Ends store target missing made (.ok ())
  | blocked {path : String} {node : Node} (way : OnWay target path)
      (there : store.get? path = some node) (file : node.isDirectory = false) :
      Ends store target missing made (.error (.alreadyExists path))
  | refused {path : String} {failure : Failure} (next : missing[made.length]? = some path)
      (refusal : store.grant made.length path = .error failure) :
      Ends store target missing made (.error failure)

/-- What an attempt to make a directory with all above it has done where it ends. -/
structure Attempt (store : Store) (target : String) (missing : List String) (made : List Node)
    (outcome : Except Failure Unit) : Prop where
  absent : Missing store target missing
  directories : ∀ node ∈ made, node.isDirectory = true
  /-- What is made is what was missing, from the top down. -/
  topmost : made.map Node.path <+: missing
  granted : ∀ k path, (made.map Node.path)[k]? = some path → store.grant k path = .ok ()
  tree : (store.withMade made).WellFormed
  ends : Ends store target missing made outcome

namespace Attempt

lemma root (h : store.WellFormed) : Attempt store "/" [] [] (.ok ()) where
  absent := .root h.root
  directories := by simp
  topmost := List.prefix_rfl
  granted := by simp
  tree := by simpa using h
  ends := .built rfl (Store.clear_root h.root)

/-- What has been made is on the way. -/
lemma onWay (h : Attempt store target missing made outcome) (hpath : path ∈ made.map Node.path) :
    OnWay target path := ((h.absent.mem path).mp (h.topmost.subset hpath)).1

/-- After an attempt that has made all, everything on the way is a directory. -/
lemma isDirectory (h : Attempt store target missing made (.ok ())) (hway : OnWay target path) :
    (store.withMade made).isDirectory path = true := by
  cases h.ends with
  | built all clear =>
      cases hget : store.get? path with
      | some node =>
          rw [Store.isDirectory, Store.get?_withMade hget]
          exact clear path node hway hget
      | none =>
          have hmem : path ∈ made.map Node.path := all ▸ (h.absent.mem path).mpr ⟨hway, hget⟩
          obtain ⟨node, hnode, hpath⟩ := List.mem_map.mp hmem
          rw [Store.isDirectory_iff_mem h.tree.keys]
          exact ⟨node, List.mem_append_right _ hnode, hpath,
            Node.isDirectory_iff.mp (h.directories node hnode)⟩

/-- An attempt that has failed above a target has failed for the target. -/
lemma failed (htarget : IsNormal target) (hup : Path.parent? target = some up)
    (h : Attempt store up missing made (.error failure)) :
    ∃ more, Attempt store target (missing ++ more) made (.error failure) := by
  obtain ⟨more, habsent⟩ : ∃ more, Missing store target (missing ++ more) := by
    cases hget : store.get? target with
    | some node => exact ⟨[], by simpa using h.absent.of_occupied hup hget⟩
    | none => exact ⟨[target], h.absent.concat htarget hup hget⟩
  refine ⟨more, habsent, h.directories, h.topmost.trans (List.prefix_append _ _), h.granted,
    h.tree, ?_⟩
  cases h.ends with
  | blocked way there file => exact .blocked (way.of_parent? hup) there file
  | refused next refusal =>
      exact .refused (by rw [List.getElem?_append_left (List.getElem?_eq_some_iff.mp next).1, next])
        refusal

/-- The target is a directory already. -/
lemma there (hup : Path.parent? target = some up)
    (h : Attempt store up missing made (.ok ())) (hget : store.get? target = some node)
    (hdir : node.isDirectory = true) : Attempt store target missing made (.ok ()) := by
  refine ⟨h.absent.of_occupied hup hget, h.directories, h.topmost, h.granted, h.tree, ?_⟩
  cases h.ends with
  | built all clear =>
      refine .built all (clear.of_parent? hup fun found hfound => ?_)
      rw [hget, Option.some_inj] at hfound
      exact hfound ▸ hdir

/-- The target is a file. -/
lemma blocked (hup : Path.parent? target = some up)
    (h : Attempt store up missing made (.ok ())) (hget : store.get? target = some node)
    (hfile : node.isDirectory = false) :
    Attempt store target missing made (.error (.alreadyExists target)) where
  absent := h.absent.of_occupied hup hget
  directories := h.directories
  topmost := h.topmost
  granted := h.granted
  tree := h.tree
  ends := .blocked .refl hget hfile

lemma all (h : Attempt store target missing made (.ok ())) : made.map Node.path = missing := by
  cases h.ends with
  | built all clear => exact all

/-- The target comes next. -/
lemma getElem?_concat (h : Attempt store up missing made (.ok ())) :
    (missing ++ [target])[made.length]? = some target := by
  rw [← h.all, ← List.length_map (f := Node.path), List.getElem?_concat_length]

/-- The limits forbid the target. -/
lemma refused (htarget : IsNormal target) (hup : Path.parent? target = some up)
    (h : Attempt store up missing made (.ok ())) (hget : store.get? target = none)
    (hrefusal : store.grant made.length target = .error failure) :
    Attempt store target (missing ++ [target]) made (.error failure) where
  absent := h.absent.concat htarget hup hget
  directories := h.directories
  topmost := h.topmost.trans (List.prefix_append _ _)
  granted := h.granted
  tree := h.tree
  ends := .refused h.getElem?_concat hrefusal

/-- The target is made. -/
lemma concat (htarget : IsNormal target) (hup : Path.parent? target = some up)
    (h : Attempt store up missing made (.ok ())) (hget : store.get? target = none)
    (hgrant : store.grant made.length target = .ok ())
    (hafter : (store.withMade (made ++ [node])).WellFormed) (hpath : node.path = target)
    (hdir : node.isDirectory = true) :
    Attempt store target (missing ++ [target]) (made ++ [node]) (.ok ()) := by
  have hall : (made ++ [node]).map Node.path = missing ++ [target] := by simp [h.all, hpath]
  refine ⟨h.absent.concat htarget hup hget, ?_, hall ▸ List.prefix_rfl, ?_, hafter, ?_⟩
  · simpa using fun other hother => hother.elim (h.directories other) (· ▸ hdir)
  · intro k path hk
    rw [List.map_append, List.getElem?_append] at hk
    split_ifs at hk with hbefore
    · exact h.granted k path hk
    · rw [List.map_singleton, List.getElem?_singleton] at hk
      split_ifs at hk with hlast
      rw [List.length_map] at hbefore hlast
      obtain rfl : k = made.length := by omega
      rwa [← Option.some_inj.mp hk, hpath]
  · cases h.ends with
    | built all clear => exact .built hall (clear.of_parent? hup (by simp [hget]))

/-- **One step down**, from the directory above a target to the target, wherever it ends. -/
lemma step (htarget : IsNormal target) (hup : Path.parent? target = some up) (now : Instant)
    (h : Attempt store up missing made (.ok ())) :
    ∃ missing' made' outcome,
      makeChain now [target] (store.withMade made) = (outcome, store.withMade made')
        ∧ Attempt store target missing' made' outcome := by
  -- all that has been made is above the target, which is still what it was
  have hfresh : target ∉ made.map Node.path :=
    fun hmem => OnWay.not_of_parent? htarget hup (h.onWay hmem)
  have hsame : (store.withMade made).get? target = store.get? target :=
    Store.get?_withMade_of_not_mem hfresh
  cases hget : store.get? target with
  | some node =>
      cases hdir : node.isDirectory with
      | true => exact ⟨_, _, _, by simp [makeChain, hsame, hget, hdir], h.there hup hget hdir⟩
      | false => exact ⟨_, _, _, by simp [makeChain, hsame, hget, hdir], h.blocked hup hget hdir⟩
  | none =>
      have hfree : (store.withMade made).get? target = none := hsame.trans hget
      have habove : (store.withMade made).isDirectory up = true := h.isDirectory .refl
      have hcreate := Store.create_directory_eq now htarget hup habove hfree
      rw [Store.grant_withMade, Nat.add_zero] at hcreate
      cases hgrant : store.grant made.length target with
      | error failure =>
          rw [hgrant] at hcreate
          exact ⟨_, _, _, by simp [makeChain, hfree, hcreate, Except.map],
            h.refused htarget hup hget hgrant⟩
      | ok =>
          rw [hgrant] at hcreate
          have hafter := h.tree.insert_directory now htarget hup habove hfree
          rw [Store.withMade_concat] at hafter
          refine ⟨_, _, _, ?_, h.concat htarget hup hget hgrant hafter ?_ rfl⟩
          · rw [← Store.withMade_concat]
            simp [makeChain, hfree, hcreate, Except.map]
          · exact Store.draft_directory_path htarget

end Attempt

/-- **What `mkdir -p` has done where it ends**, carried down the way from the root. -/
theorem exists_attempt (h : store.WellFormed) (htarget : IsNormal target) (now : Instant) :
    ∃ missing made outcome,
      makeWithParents store target now = (outcome, store.withMade made)
        ∧ Attempt store target missing made outcome := by
  refine htarget.induction_up ?_ ?_
  · exact ⟨[], [], .ok (), by simp [makeWithParents, pathChain_root, makeChain], .root h⟩
  · rintro target up htarget hup ⟨missing, made, outcome, hrun, hattempt⟩
    rw [makeWithParents_of_parent? htarget hup, hrun]
    cases outcome with
    | error failure =>
        obtain ⟨more, hfailed⟩ := hattempt.failed htarget hup
        exact ⟨_, made, _, rfl, hfailed⟩
    | ok => exact hattempt.step htarget hup now

/-- An attempt has made all exactly if no file was in the way and the limits granted each missing
directory in its turn. -/
lemma Attempt.outcome_eq_ok_iff (h : Attempt store target missing made outcome) :
    outcome = .ok ()
      ↔ store.Clear target ∧ ∀ k path, missing[k]? = some path → store.grant k path = .ok () := by
  constructor
  · rintro rfl
    cases h.ends with
    | built all clear => exact ⟨clear, all ▸ h.granted⟩
  · rintro ⟨hclear, hgranted⟩
    cases h.ends with
    | built all clear => rfl
    | blocked way there file => exact absurd (hclear _ _ way there) (by simp [file])
    | refused next refusal => exact absurd (hgranted _ _ next) (by simp [refusal])

/-- What is there of the way to a target is all that leads to the lowest node on it. -/
lemma exists_reached (h : store.WellFormed) (htarget : IsNormal target) :
    ∃ reached, OnWay target reached
      ∧ ∀ path, OnWay target path → (store.contains path = true ↔ OnWay reached path) := by
  refine htarget.induction_up ?_ ?_
  · refine ⟨"/", .refl, fun path hway => ?_⟩
    obtain ⟨node, hroot, -⟩ := Store.isDirectory_iff.mp h.root
    rw [OnWay.root_iff.mp hway]
    exact ⟨fun _ => .refl, fun _ => Store.contains_eq_true_iff.mpr ⟨node, hroot⟩⟩
  · rintro target up htarget hup ⟨reached, hreached, hchain⟩
    cases hget : store.get? target with
    | some node =>
        refine ⟨target, .refl, fun path hway => ⟨fun _ => hway, fun _ => ?_⟩⟩
        rcases (OnWay.iff_isBelow htarget (hway.isNormal htarget)).mp hway with rfl | hbelow
        · exact Store.contains_eq_true_iff.mpr ⟨node, hget⟩
        · rw [← Store.path_of_get? hget] at hbelow
          obtain ⟨found, hfound, -⟩ := Store.isDirectory_iff.mp
            (h.isDirectory_of_isBelow (Store.mem_of_get? hget) (hway.isNormal htarget) hbelow)
          exact Store.contains_eq_true_iff.mpr ⟨found, hfound⟩
    | none =>
        refine ⟨reached, hreached.of_parent? hup, fun path hway => ?_⟩
        rcases (OnWay.iff_of_parent? hup).mp hway with rfl | hway
        · have hbelow : ¬ OnWay reached path :=
            fun hback => OnWay.not_of_parent? htarget hup (hreached.trans hback)
          simp [Store.contains, hget, hbelow]
        · exact hchain path hway

/-! ## Beside other sessions -/

/-- Looking again finds nothing where nobody has made anything. -/
lemma makeBeside_nobody :
    makeBeside nobody now path store = makeChain now [path] store := by
  simp only [makeBeside, makeChain, nobody]
  cases hget : store.get? path with
  | some node => cases hdir : node.isDirectory <;> simp [hdir]
  | none =>
      -- a creation may answer that the path is taken, for the root has no parent to look at
      have hnot : store.isDirectory path = false := by simp [Store.isDirectory, hget]
      cases hcreate : store.create (.directory path) now with
      | ok made => rfl
      | error failure => cases failure <;> simp [hnot]

/-- **The second look makes no difference** where no other session acts. -/
theorem makeChainBeside_nobody (paths : List String) (store : Store) :
    makeChainBeside nobody now paths store = makeChain now paths store := by
  induction paths generalizing store with
  | nil => rfl
  | cons path rest ih =>
      rw [← List.singleton_append, makeChain_append, List.singleton_append, makeChainBeside,
        makeBeside_nobody]
      obtain ⟨outcome, middle⟩ := makeChain now [path] store
      cases outcome with
      | error failure => rfl
      | ok => exact ih middle

section Retaining

variable {others : Others}
  (hothers : ∀ moment path store, Store.Retains store (others moment path store))

include hothers

/-- One directory is made, or there is one. -/
lemma retains_makeBeside (hpath : IsNormal path) :
    Store.Retains store (makeBeside others now path store).2
      ∧ ((makeBeside others now path store).1 = .ok () →
        (makeBeside others now path store).2.isDirectory path = true) := by
  obtain ⟨seen, hseen⟩ : ∃ seen, others .beforeLooking path store = seen := ⟨_, rfl⟩
  obtain ⟨free, hfree⟩ : ∃ free, others .beforeMaking path seen = free := ⟨_, rfl⟩
  obtain ⟨again, hagain⟩ : ∃ again, others .beforeLookingAgain path free = again := ⟨_, rfl⟩
  have hfirst : Store.Retains store seen := hseen ▸ hothers _ _ _
  have hsecond : Store.Retains store free := hfirst.trans (hfree ▸ hothers _ _ _)
  have hthird : Store.Retains store again := hsecond.trans (hagain ▸ hothers _ _ _)
  simp only [makeBeside, hseen]
  cases hget : seen.get? path with
  | some node => exact ⟨hfirst, by simp [Store.isDirectory, hget]⟩
  | none =>
      simp only [hfree]
      cases hcreate : free.create (.directory path) now with
      | ok made =>
          obtain ⟨hvacant, -, hmade⟩ := Store.create_eq_ok_iff.mp hcreate
          refine ⟨hsecond.trans (Store.retains_create hcreate), fun _ => ?_⟩
          have hthere : (free.insert (.directory path) now).2.get? _ = some _ :=
            Store.get?_insert_self hvacant
          rw [Store.draft_directory_path hpath] at hthere
          rw [hmade]
          exact Store.isDirectory_iff.mpr ⟨_, hthere, rfl⟩
      | error failure => cases failure <;> simp [hagain, hsecond, hthird]

/-- **Success beside others.**  Whatever other sessions do in between, as long as they take no node
away: if the chain is made, there is a directory at every path of it. -/
theorem isDirectory_of_makeChainBeside {paths : List String}
    (hpaths : ∀ path ∈ paths, IsNormal path)
    (hmade : makeChainBeside others now paths store = (.ok (), after)) :
    Store.Retains store after ∧ ∀ path ∈ paths, after.isDirectory path = true := by
  induction paths generalizing store with
  | nil =>
      obtain rfl : store = after := congrArg Prod.snd hmade
      exact ⟨.refl, by simp⟩
  | cons path rest ih =>
      rw [List.forall_mem_cons] at hpaths
      have hone : Store.Retains store (makeBeside others now path store).2 ∧ _ :=
        retains_makeBeside hothers hpaths.1
      rw [makeChainBeside] at hmade
      cases hstep : makeBeside others now path store with
      | mk outcome middle =>
          rw [hstep] at hone hmade
          cases outcome with
          | error failure => simp at hmade
          | ok =>
              obtain ⟨hlater, hrest⟩ := ih hpaths.2 hmade
              exact ⟨hone.1.trans hlater,
                List.forall_mem_cons.mpr ⟨hlater.isDirectory (hone.2 rfl), hrest⟩⟩

end Retaining

/-! ## In a shell -/

/-- **`mkdir -p` builds exactly the missing chain.**  In any namespace of a shell with the built-in
commands, after any history, and for any target in normal form: all is made exactly if no node on
the way is a file and each of the missing ones is granted by the limits, from the top down.  Then
every path on the way is a directory, and to do it again does nothing, at whatever time.  The second
look at a path that another session may have taken changes none of this.

Wherever it ends, all nodes are still there as they were; what is new are directories on the way,
the topmost of those that were missing; and what there is of the way leads up from one path without
a gap. -/
theorem makeWithParents_builds {shell : Shell} (hreach : shell.Reachable)
    (hstore : store ∈ shell.stores) (htarget : IsNormal target) (now : Instant) :
    ∃ missing made outcome after, Missing store target missing
      ∧ makeWithParents store target now = (outcome, after)
      ∧ makeChainBeside nobody now (pathChain target) store = (outcome, after)
      ∧ after = store.withMade made
      ∧ (outcome = .ok () ↔
        store.Clear target ∧ ∀ k path, missing[k]? = some path → store.grant k path = .ok ())
      ∧ (outcome = .ok () →
        (∀ path, OnWay target path → after.isDirectory path = true)
          ∧ ∀ later, makeWithParents after target later = (.ok (), after))
      ∧ (∀ path node, store.get? path = some node → after.get? path = some node)
      ∧ (∀ node ∈ made, node.isDirectory = true ∧ OnWay target node.path)
      ∧ made.map Node.path <+: missing
      ∧ ∃ reached, OnWay target reached
        ∧ ∀ path, OnWay target path → (after.contains path = true ↔ OnWay reached path) := by
  obtain ⟨missing, made, outcome, hrun, hattempt⟩ :=
    exists_attempt (hreach.sound.safe store hstore).tree htarget now
  refine ⟨missing, made, outcome, _, hattempt.absent, hrun,
    (makeChainBeside_nobody _ _).trans hrun, rfl, hattempt.outcome_eq_ok_iff, ?_,
    fun path node hget => Store.get?_withMade hget, fun node hnode => ?_, hattempt.topmost,
    exists_reached hattempt.tree htarget⟩
  · rintro rfl
    have hthere : ∀ path, OnWay target path → (store.withMade made).isDirectory path = true :=
      fun path hway => hattempt.isDirectory hway
    exact ⟨hthere, fun later => makeWithParents_of_isDirectory htarget hthere⟩
  · exact ⟨hattempt.directories node hnode, hattempt.onWay (List.mem_map_of_mem hnode)⟩

/-- There is room for one directory.  Of the two that are missing to the one target the first is
made and stays; to the other target one is missing, and it is made. -/
theorem makeWithParents_builds_to_the_limit :
    ∃ (shell : Shell) (store : Store) (made : List Node) (stopped after : Store),
      shell = (Shell.new .usual .shared { nodeCount := 10 }
        ⟨0, 0⟩).run [(⟨0, 0⟩, .create), (⟨1, 0⟩, .execute 1 "mkdir a" [])]
      ∧ store ∈ shell.stores
      ∧ makeWithParents store "/home/user/a/b/c" ⟨2, 0⟩
        = (.error (.limitExceeded (.nodeCount 10 10)), stopped)
      ∧ stopped = store.withMade made ∧ made.map Node.path = ["/home/user/a/b"]
      ∧ makeWithParents store "/home/user/a/b" ⟨2, 0⟩ = (.ok (), after)
      ∧ after.isDirectory "/home/user/a/b" = true
      ∧ makeWithParents after "/home/user/a/b" ⟨3, 0⟩ = (.ok (), after) := by
  obtain ⟨shell, hshell⟩ : ∃ shell : Shell, shell = (Shell.new
      .usual .shared { nodeCount := 10 } ⟨0, 0⟩).run
        [(⟨0, 0⟩, .create), (⟨1, 0⟩, .execute 1 "mkdir a" [])] := ⟨_, rfl⟩
  have hreach : shell.Reachable := ⟨_, _, _, _, _, _, _, hshell⟩
  have hstore : shell.commons ∈ shell.stores := List.mem_cons_self
  have hbuilds := fun target (htarget : IsNormal target) =>
    makeWithParents_builds hreach hstore htarget ⟨2, 0⟩
  obtain ⟨-, made, outcome, stopped, -, hrun, -, hmade, -⟩ := hbuilds "/home/user/a/b/c" (by decide)
  obtain ⟨-, -, done, after, -, hmake, -, -, -, hdone, -⟩ := hbuilds "/home/user/a/b" (by decide)
  have hfacts : (makeWithParents shell.commons "/home/user/a/b/c" ⟨2, 0⟩).1
        = .error (.limitExceeded (.nodeCount 10 10))
      ∧ (makeWithParents shell.commons "/home/user/a/b/c" ⟨2, 0⟩).2.nodes.map Node.path
        = shell.commons.nodes.map Node.path ++ ["/home/user/a/b"]
      ∧ (makeWithParents shell.commons "/home/user/a/b" ⟨2, 0⟩).1 = .ok () := by
    rw [hshell]
    decide +kernel
  rw [hrun, hmake, hmade] at hfacts
  obtain ⟨rfl, hpaths, rfl⟩ := hfacts
  obtain ⟨hthere, hagain⟩ := hdone rfl
  rw [Store.withMade, List.map_append] at hpaths
  exact ⟨shell, shell.commons, made, stopped, after, hshell, hstore, hrun, hmade,
    List.append_cancel_left hpaths, hmake, hthere _ .refl, hagain ⟨3, 0⟩⟩

end Command

end VirtualShell
