import VirtualShell.Proofs.Store.Change
import VirtualShell.Store.Seed

/-!
# Runs of operations on a new store

A client of a store knows it by its five operations.  `Call` is one of them with its arguments,
`run` is any finite sequence of them, each at a reading of the clock of its own, and a call that
fails leaves the store as it was.

**What a client has to keep to.**  Drafts are built by the two constructors, which normalise their
paths, and the target of a move is in normal form (`Call.Proper`).  No other argument is restricted.

**What it gets.**  `coherent_run`: whatever is called in whatever order, the store stays a tree of
directories and files whose nodes agree with their paths, their numbers and their bodies.
-/

namespace VirtualShell

open Time (Instant)

open VirtualShell.Path (IsNormal)

/-- The drafts that can be built. -/
inductive Draft.Made : Draft → Prop where
  | directory (path : String) : Made (.directory path)
  | file (path content : String) : Made (.file path content)
  | withPermissions {draft : Draft} (permissions : String) (made : Made draft) :
      Made (draft.withPermissions permissions)

lemma Draft.Made.isNormal {draft : Draft} (h : draft.Made) : IsNormal draft.path := by
  induction h with
  | directory path => exact Path.isNormal_normalize path
  | file path content => exact Path.isNormal_normalize path
  | withPermissions permissions made ih => exact ih

namespace Store

/-- An operation with its arguments. -/
inductive Call where
  | create (draft : Draft)
  | upsert (draft : Draft)
  | update (path : String) (amendment : Amendment)
  | delete (path : String)
  | rename (source target : String)
  deriving DecidableEq, Repr

namespace Call

/-- What a client answers for: built drafts, and normal targets of moves. -/
def Proper : Call → Prop
  | create draft | upsert draft => draft.Made
  | rename _ target => IsNormal target
  | update .. | delete _ => True

/-- The store that a call leaves, if it succeeds. -/
def perform? (store : Store) (now : Instant) : Call → Option Store
  | create draft => (store.create draft now).toOption.map Prod.snd
  | upsert draft => (store.upsert draft now).toOption.map Prod.snd
  | update path amendment => (store.update path amendment now).toOption.map Prod.snd
  | delete path => store.delete path
  | rename source target => (store.rename source target now).toOption

end Call

/-- The store after a call, whether it has succeeded or not. -/
def after (store : Store) (now : Instant) (call : Call) : Store :=
  (call.perform? store now).getD store

/-- The store after a sequence of calls, each with the reading of the clock at its time. -/
def run (store : Store) (calls : List (Instant × Call)) : Store :=
  calls.foldl (fun store entry => store.after entry.1 entry.2) store

variable {store : Store} {limits : Limits} {now : Instant} {call : Call}
  {calls : List (Instant × Call)}

/-! ## One call -/

lemma toOption_eq_some_iff {α : Type} {step : Except Failure α} {made : α} :
    step.toOption = some made ↔ step = .ok made := by
  cases step <;> simp [Except.toOption]

/-- Permissions are the client's own affair here, so any may be given. -/
lemma change_of_perform? {done : Store} (hproper : call.Proper)
    (h : call.perform? store now = some done) : Change (fun _ _ => True) store done := by
  cases call with
  | create draft =>
      obtain ⟨⟨node, _⟩, hresult, rfl⟩ := Option.map_eq_some_iff.mp h
      exact change_of_create draft hproper.isNormal trivial (toOption_eq_some_iff.mp hresult)
  | upsert draft =>
      obtain ⟨⟨node, _⟩, hresult, rfl⟩ := Option.map_eq_some_iff.mp h
      exact change_of_upsert draft hproper.isNormal trivial (toOption_eq_some_iff.mp hresult)
  | update path amendment =>
      obtain ⟨⟨node, _⟩, hresult, rfl⟩ := Option.map_eq_some_iff.mp h
      exact change_of_update (fun _ _ _ _ => trivial) (toOption_eq_some_iff.mp hresult)
  | delete path => exact .delete h
  | rename source target => exact .rename hproper (toOption_eq_some_iff.mp h)

lemma change_after (hproper : call.Proper) :
    Change (fun _ _ => True) store (store.after now call) := by
  simp only [after]
  cases h : call.perform? store now with
  | none => exact .stay
  | some done => exact change_of_perform? hproper h

/-- What every change keeps, a run keeps. -/
theorem run_preserves {P : Store → Prop}
    (hkeeps : ∀ before done, P before → Change (fun _ _ => True) before done → P done)
    (hproper : ∀ entry ∈ calls, entry.2.Proper) (h : P store) : P (store.run calls) := by
  induction calls generalizing store with
  | nil => exact h
  | cons entry rest ih =>
      have hrest : ∀ later ∈ rest, later.2.Proper :=
        fun later hlater => hproper later (List.mem_cons_of_mem entry hlater)
      exact ih hrest (hkeeps store _ h (change_after (hproper entry List.mem_cons_self)))

/-! ## The new store -/

/-- The eight nodes of a new namespace. -/
lemma new_nodes (limits : Limits) (now : Instant) :
    (new limits now).nodes =
      [⟨1, "/", "/", .directory, directoryPermissions, 4096, now, now⟩,
       ⟨2, "/home", "home", .directory, directoryPermissions, 4096, now, now⟩,
       ⟨3, "/home/user", "user", .directory, directoryPermissions, 4096, now, now⟩,
       ⟨4, "/home/user/Documents", "Documents", .directory, directoryPermissions, 4096, now, now⟩,
       ⟨5, "/home/user/Projects", "Projects", .directory, directoryPermissions, 4096, now, now⟩,
       ⟨6, "/home/user/.bashrc", ".bashrc", .file runCommands, filePermissions,
         runCommands.utf8ByteSize, now, now⟩,
       ⟨7, "/home/user/.profile", ".profile", .file loginProfile, filePermissions,
         loginProfile.utf8ByteSize, now, now⟩,
       ⟨8, "/home/user/.bash_logout", ".bash_logout", .file logoutCommands, filePermissions,
         logoutCommands.utf8ByteSize, now, now⟩] := by
  simp only [new, seed, List.foldl_cons, List.foldl_nil, insert, Draft.body_directory,
    Draft.body_file]
  rfl

theorem wellFormed_new (limits : Limits) (now : Instant) : WellFormed (new limits now) := by
  have hpaths : (new limits now).nodes.map Node.path
      = ["/", "/home", "/home/user", "/home/user/Documents", "/home/user/Projects",
         "/home/user/.bashrc", "/home/user/.profile", "/home/user/.bash_logout"] := by
    simp [new_nodes]
  have hkeys : ((new limits now).nodes.map Node.path).Nodup := by
    rw [hpaths]
    decide
  have hdirectories : ∀ up ∈ ["/", "/home", "/home/user"],
      (new limits now).isDirectory up = true := by
    simp [isDirectory_iff_mem hkeys, new_nodes]
  -- what is a parent at all is one of the three directories on the way home
  have hparents : ∀ path ∈ (new limits now).nodes.map Node.path,
      (Path.parent? path).all (fun up => up ∈ ["/", "/home", "/home/user"]) = true := by
    rw [hpaths]
    decide
  refine ⟨hdirectories "/" (by simp), ?_, hkeys, ?_, ?_, ?_, ?_⟩
  · have hnormal : ∀ path ∈ (new limits now).nodes.map Node.path, IsNormal path := by
      rw [hpaths]
      decide
    exact fun node hnode => hnormal node.path (List.mem_map_of_mem hnode)
  · intro node hnode up hup
    have hall := hparents node.path (List.mem_map_of_mem hnode)
    rw [hup, Option.all_some, decide_eq_true_eq] at hall
    exact hdirectories up hall
  · simp [new_nodes]
  · have hnext : (new limits now).nextId = 9 := rfl
    simp [new_nodes, hnext]
  · intro node hnode
    have hname : ∀ entry ∈ (new limits now).nodes.map fun node => (node.name, node.path),
        entry.1 = Path.fileName entry.2 := by
      simp only [new_nodes, List.map_cons, List.map_nil]
      decide
    refine ⟨hname _ (List.mem_map_of_mem hnode), ?_⟩
    rw [new_nodes] at hnode
    revert node
    simp [Body.size, Body.directorySize]

/-- Whether the files of the seed would be accepted if they were checked. -/
def SeedFits (limits : Limits) : Prop :=
  ∀ draft ∈ seed, ∀ content, draft.body = .file content → content.utf8ByteSize ≤ limits.fileSize

instance (limits : Limits) : Decidable (SeedFits limits) :=
  decidable_of_iff
    (∀ draft ∈ seed, draft.body.kind = .file → draft.body.size ≤ limits.fileSize) <| by
      refine forall₂_congr fun draft _ => ?_
      cases draft.body <;> simp [Body.kind, Body.size]

lemma fits_new (h : SeedFits limits) : Fits (new limits now) := by
  intro node hnode content hbody
  have hseed : ∃ draft ∈ seed, draft.body = node.body := by
    rw [new_nodes] at hnode
    revert node
    simp [seed]
  obtain ⟨draft, hdraft, hsame⟩ := hseed
  exact h draft hdraft content (hsame.trans hbody)

/-! ## Reachable stores -/

theorem wellFormed_run (limits : Limits) (start : Instant)
    (hproper : ∀ entry ∈ calls, entry.2.Proper) :
    WellFormed ((new limits start).run calls) :=
  run_preserves (fun _ _ h hchange => h.of_change hchange) hproper (wellFormed_new limits start)

theorem fits_run (start : Instant) (hseed : SeedFits limits)
    (hproper : ∀ entry ∈ calls, entry.2.Proper) : Fits ((new limits start).run calls) :=
  run_preserves (fun _ _ h hchange => h.of_change hchange) hproper (fits_new hseed)

/-- What a reader can rely on, who looks a store up by path. -/
structure Coherent (store : Store) : Prop where
  root : ∃ node, store.get? "/" = some node ∧ node.kind = .directory
  keyed : ∀ path node, store.get? path = some node → node.path = path ∧ IsNormal path
  /-- No node is hidden behind another of the same path. -/
  found : ∀ node ∈ store.nodes, store.get? node.path = some node
  named : ∀ path node, store.get? path = some node → node.name = Path.fileName path
  parents : ∀ path node, store.get? path = some node → path ≠ "/" →
    ∃ up above, Path.parent? path = some up ∧ Path.join up node.name = path
      ∧ store.get? up = some above ∧ above.kind = .directory
  ids : (store.nodes.map Node.id).Nodup
  fresh : ∀ node ∈ store.nodes, node.id < store.nextId
  content : ∀ node ∈ store.nodes, node.body.content?.isSome = true ↔ node.kind = .file
  size : ∀ node ∈ store.nodes,
    node.size = (node.body.content?.map String.utf8ByteSize).getD Body.directorySize

lemma WellFormed.coherent (h : WellFormed store) : Coherent store := by
  refine ⟨?_, ?_, fun node => h.get?_of_mem, ?_, ?_, ?_, h.fresh, ?_, ?_⟩
  · obtain ⟨node, hget, hbody⟩ := isDirectory_iff.mp h.root
    exact ⟨node, hget, Body.kind_eq_directory_iff.mpr hbody⟩
  · exact fun path node hget => ⟨path_of_get? hget, h.isNormal_of_get? hget⟩
  · intro path node hget
    rw [(h.accurate node (mem_of_get? hget)).name, path_of_get? hget]
  · intro path node hget hroot
    obtain ⟨up, hup, -, hjoin⟩ := (h.isNormal_of_get? hget).exists_parent hroot
    obtain rfl : node.path = path := path_of_get? hget
    rw [← (h.accurate node (mem_of_get? hget)).name] at hjoin
    obtain ⟨above, habove, hbody⟩ :=
      isDirectory_iff.mp (h.parents node (mem_of_get? hget) up hup)
    exact ⟨up, above, hup, hjoin, habove, Body.kind_eq_directory_iff.mpr hbody⟩
  · exact h.ascending.imp fun hlt => Nat.ne_of_lt hlt
  · intro node _
    rw [Node.kind]
    cases node.body <;> simp [Body.content?, Body.kind]
  · intro node hnode
    rw [(h.accurate node hnode).size]
    cases node.body <;> rfl

/-- **Every reachable store is coherent**, whatever its limits and whether the calls have succeeded
or not. -/
theorem coherent_run (limits : Limits) (start : Instant) (calls : List (Instant × Call))
    (hproper : ∀ entry ∈ calls, entry.2.Proper) : Coherent ((new limits start).run calls) :=
  (wellFormed_run limits start hproper).coherent

/-- A directory is made under a careless spelling, filled and moved; then a move fails. -/
theorem coherent_run_of_move :
    let store := (new {} ⟨0, 0⟩).run
      [(⟨1, 0⟩, .create (.directory "/home//user/./a/")),
       (⟨2, 0⟩, .upsert ((Draft.file "/home/user/a/b" "text").withPermissions "-rwxr-xr-x")),
       (⟨3, 0⟩, .rename "/home/user/a" "/home/user/Projects/c"),
       (⟨4, 0⟩, .rename "/home" "/home/user/Projects/c/d")]
    Coherent store ∧ store.contains "/home/user/Projects/c/b" = true
      ∧ store.contains "/home/user/a" = false := by
  refine ⟨coherent_run _ _ _ ?_, by decide +kernel, by decide +kernel⟩
  simp only [List.forall_mem_cons, List.not_mem_nil, false_implies, implies_true, and_true]
  refine ⟨.directory _, .withPermissions _ (.file _ _), ?_, ?_⟩
  · show IsNormal "/home/user/Projects/c"
    decide
  · show IsNormal "/home/user/Projects/c/d"
    decide

end Store

end VirtualShell
