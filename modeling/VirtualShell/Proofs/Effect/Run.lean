import VirtualShell.Proofs.Effect.Undo

/-!
# Effects without the way back

`Effect.run` is what an effect does to a store, and `carryOut_eq` says that carrying it out does
just this and puts the way back (`Effect.wayBack`) on the stack.  What is proved of `run` here is
read one path at a time: an effect acts at one place, the normal form of its path, and leaves all
others alone.

All of it asks that files are written under normal paths (`Effect.Tidy`).  Directories may be
spelled in any way, and some tools do spell them so.
-/

namespace VirtualShell

open Time (Instant)

open VirtualShell.Path (IsNormal)

namespace Effect

/-- The path of an effect, as it is spelled. -/
def path : Effect → String
  | makeDirectory path => path
  | write path .. => path

/-- The place where an effect acts. -/
def place (effect : Effect) : String := Path.normalize effect.path

/-- Whether an effect writes under a normal path, if it writes. -/
def Tidy : Effect → Prop
  | makeDirectory _ => True
  | write path .. => IsNormal path

/-- What an effect does to a store. -/
def run (store : Store) (now : Instant) : Effect → Except Failure Store
  | makeDirectory path => (store.upsert (.directory path) now).map Prod.snd
  | write path content none => (store.upsert (.file path content) now).map Prod.snd
  | write path content (some permissions) => do
    let (_, store) ← store.upsert (.file path content) now
    (store.update path ⟨none, some permissions⟩ now).map Prod.snd

/-- What effects do one after the other, up to the first failure. -/
def runAll (now : Instant) (effects : List Effect) (store : Store) : Except Failure Store :=
  effects.foldlM (fun store effect => effect.run store now) store

/-- The effects before the first one that fails. -/
def carriedOut (now : Instant) : List Effect → Store → List Effect
  | [], _ => []
  | effect :: rest, store =>
    match effect.run store now with
    | .ok after => effect :: carriedOut now rest after
    | .error _ => []

/-- The way back from an effect on a store. -/
def wayBack (store : Store) : Effect → List Undo
  | makeDirectory path => if store.contains path then [] else [.remove path]
  | write path .. => [Stage.undoWrite store path]

/-- An effect under a normal path is tidy. -/
lemma tidy_of_isNormal {effect : Effect} (h : IsNormal effect.path) : effect.Tidy := by
  cases effect with
  | makeDirectory => trivial
  | write => exact h

variable {store after : Store} {effect : Effect} {now : Instant} {failure : Failure}
  {may : NodeKind → String → Prop}

/-! ## The two parts of an effect -/

/-- The store in which a file has been written, with the permissions that it then gets, if any. -/
def marked (now : Instant) (permissions : Option String) (written : Node × Store) : Store :=
  match permissions with
  | none => written.2
  | some shown => written.2.replace { written.1 with permissions := shown, updated := now }

/-- Setting the permissions of a file that has just been written cannot fail. -/
lemma run_write {path content : String} {permissions : Option String} (hnormal : IsNormal path) :
    (write path content permissions).run store now
      = (store.upsert (.file path content) now).map (marked now permissions) := by
  have hpath : (Draft.file path content).path = path := hnormal
  cases permissions with
  | none => rfl
  | some shown =>
      cases hupsert : store.upsert (.file path content) now with
      | error cause => simp [run, hupsert, bind, Except.bind, Except.map]
      | ok written =>
          have hget := (Store.get?_upsert hupsert).1
          rw [hpath] at hget
          simp [run, hupsert, bind, Except.bind, Store.update_permissions hget, Except.map, marked]

/-- **Carrying out is running and noting the way back.** -/
theorem carryOut_eq {stage : Stage} (htidy : effect.Tidy) :
    stage.carryOut now effect
      = match effect.run stage.store now with
        | .ok after => (.ok (), ⟨after, effect.wayBack stage.store ++ stage.undo⟩)
        | .error failure => (.error failure, stage) := by
  cases effect with
  | makeDirectory path =>
      simp only [Stage.carryOut, Stage.makeDirectory, run, wayBack]
      cases stage.store.upsert (.directory path) now with
      | error failure => rfl
      | ok made => by_cases hthere : stage.store.contains path = true <;> simp [Except.map, hthere]
  | write path content permissions =>
      simp only [Stage.carryOut, Stage.write, run_write htidy, wayBack]
      have hpath : (Draft.file path content).path = path := htidy
      cases hupsert : stage.store.upsert (.file path content) now with
      | error failure => rfl
      | ok written =>
          have hget := (Store.get?_upsert hupsert).1
          rw [hpath] at hget
          cases permissions with
          | none => rfl
          | some shown => simp [Store.update_permissions hget, Except.map, marked]

/-! ## One place at a time -/

lemma get?_marked_of_ne {permissions : Option String} {written : Node × Store} {other : String}
    (hne : other ≠ written.1.path) :
    (marked now permissions written).get? other = written.2.get? other := by
  cases permissions with
  | none => rfl
  | some shown => exact Store.get?_replace_of_ne hne

lemma get?_marked_self (now : Instant) (permissions : Option String) {written : Node × Store}
    {path : String} (hget : written.2.get? path = some written.1) :
    ∃ node, (marked now permissions written).get? path = some node ∧ node.id = written.1.id
      ∧ node.body = written.1.body ∧ node.created = written.1.created := by
  cases permissions with
  | none => exact ⟨written.1, hget, rfl, rfl, rfl⟩
  | some shown =>
      have hpath : written.1.path = path := Store.path_of_get? hget
      exact ⟨_, Store.get?_replace_self hpath hget, rfl, rfl, rfl⟩

/-- An effect acts at its place and nowhere else. -/
lemma get?_run_of_ne {other : String} (htidy : effect.Tidy)
    (h : effect.run store now = .ok after) (hne : other ≠ effect.place) :
    after.get? other = store.get? other := by
  cases effect with
  | makeDirectory path =>
      obtain ⟨⟨node, _⟩, hupsert, rfl⟩ := map_eq_ok_iff.mp h
      exact (Store.get?_upsert hupsert).2.2.1 other hne
  | write path content permissions =>
      rw [run_write htidy] at h
      obtain ⟨⟨node, written⟩, hupsert, rfl⟩ := map_eq_ok_iff.mp h
      obtain ⟨hget, -, hother, -⟩ := Store.get?_upsert hupsert
      have hplace : node.path = Path.normalize path := Store.path_of_get? hget
      rw [get?_marked_of_ne (hplace ▸ hne)]
      exact hother other hne

/-- Making sure of a directory that is there leaves no more than a time. -/
lemma get?_run_makeDirectory {path : String} (h : (makeDirectory path).run store now = .ok after) :
    ∃ node, after.get? (Path.normalize path) = some node
      ∧ ∀ old, store.get? (Path.normalize path) = some old → node.timeless = old.timeless := by
  obtain ⟨⟨node, _⟩, hupsert, rfl⟩ := map_eq_ok_iff.mp h
  obtain ⟨hget, hbody, -, hold⟩ := Store.get?_upsert hupsert
  refine ⟨node, hget, fun old hfound => ?_⟩
  obtain ⟨-, rfl⟩ := hold old hfound
  rfl

/-- Writing a file leaves its text, which is within the limit; a file that has been there keeps
its number and its time of creation. -/
lemma get?_run_write {path content : String} {permissions : Option String}
    (hnormal : IsNormal path) (h : (write path content permissions).run store now = .ok after) :
    content.utf8ByteSize ≤ store.limits.fileSize
      ∧ ∃ node, after.get? path = some node ∧ node.body = .file content
        ∧ ∀ old, store.get? path = some old
          → (∃ text, old.body = .file text) ∧ node.id = old.id ∧ node.created = old.created := by
  have hpath : (Draft.file path content).path = path := hnormal
  rw [run_write hnormal] at h
  obtain ⟨⟨node, written⟩, hupsert, rfl⟩ := map_eq_ok_iff.mp h
  obtain ⟨hget, hbody, -, hold⟩ := Store.get?_upsert hupsert
  rw [hpath] at hget hold
  refine ⟨?_, ?_⟩
  · rcases Store.upsert_eq_ok_iff.mp hupsert with ⟨-, hroom, -⟩ | ⟨_, -, -, hfits, -⟩
    · exact (Store.checkNew_eq_ok_iff.mp hroom).2.2.2
    · exact hfits content rfl
  · have hwritten : (node, written).2.get? path = some (node, written).1 := hget
    obtain ⟨last, hlast, hid, hsame, hcreated⟩ := get?_marked_self now permissions hwritten
    refine ⟨last, hlast, hsame.trans hbody, fun old hfound => ?_⟩
    obtain ⟨hkind, hnode⟩ := hold old hfound
    rw [hnode] at hid hcreated
    exact ⟨Body.kind_eq_file_iff.mp hkind, hid, hcreated⟩

/-! ## What effects keep -/

/-- Whether the permissions that an effect gives may be given. -/
def Allowed (may : NodeKind → String → Prop) : Effect → Prop
  | makeDirectory _ => may .directory directoryPermissions
  | write _ _ permissions =>
    may .file filePermissions ∧ ∀ shown, permissions = some shown → may .file shown

/-- What every change keeps, an effect keeps: it is one change or two. -/
theorem run_preserves {P : Store → Prop}
    (hkeeps : ∀ before done, P before → Store.Change may before done → P done)
    (htidy : effect.Tidy) (hallowed : effect.Allowed may) (h : effect.run store now = .ok after)
    (hstore : P store) : P after := by
  cases effect with
  | makeDirectory path =>
      obtain ⟨⟨node, _⟩, hupsert, rfl⟩ := map_eq_ok_iff.mp h
      exact hkeeps store _ hstore (Store.change_of_upsert (.directory path)
        (Path.isNormal_normalize path) hallowed hupsert)
  | write path content permissions =>
      rw [run_write htidy] at h
      obtain ⟨⟨node, written⟩, hupsert, rfl⟩ := map_eq_ok_iff.mp h
      obtain ⟨hget, hbody, -⟩ := Store.get?_upsert hupsert
      have hwritten : P written := hkeeps store _ hstore
        (Store.change_of_upsert (.file path content) (Path.isNormal_normalize path)
          hallowed.1 hupsert)
      cases permissions with
      | none => exact hwritten
      | some shown =>
          have hkind : node.body.kind = .file := by
            rw [hbody]
            rfl
          have hpath := Store.get?_path_of_get? hget
          refine hkeeps written _ hwritten (.replace node hpath rfl rfl
            (fun haccurate => ⟨haccurate.name, haccurate.size⟩) (Or.inl rfl) (Or.inr ?_))
          rw [hkind]
          exact hallowed.2 shown rfl

/-- Any permissions are allowed if nothing is asked of them. -/
lemma allowed_of_true : effect.Allowed fun _ _ => True := by
  cases effect <;> simp [Allowed]

lemma wellFormed_run (htidy : effect.Tidy) (h : effect.run store now = .ok after)
    (hwell : Store.WellFormed store) : Store.WellFormed after :=
  run_preserves (fun _ _ hbefore hchange => hbefore.of_change hchange) htidy allowed_of_true h hwell

lemma limits_run (htidy : effect.Tidy) (h : effect.run store now = .ok after) :
    after.limits = store.limits :=
  run_preserves (P := fun done => done.limits = store.limits)
    (fun _ _ hbefore hchange => hchange.limits.trans hbefore) htidy allowed_of_true h rfl

end Effect

/-- A script that writes one file and succeeds answers its output and leaves the file. -/
lemma ToolScript.perform_file {script : ToolScript} {store : Store} {now : Instant} {reply : Reply}
    {path content : String} (heffects : script.effects = [.file path content])
    (hnormal : IsNormal path) (h : (script.perform store now).1 = .ok reply) :
    reply = .ok script.output
      ∧ ∃ node, (script.perform store now).2.1.get? path = some node
        ∧ node.body = .file content := by
  have htidy : (Effect.file path content).Tidy := hnormal
  cases hrun : (Effect.file path content).run store now with
  | error failure =>
      simp [perform, heffects, Stage.carryOutAll, Effect.carryOut_eq htidy, hrun] at h
  | ok after =>
      obtain ⟨-, node, hnode, hbody, -⟩ := Effect.get?_run_write hnormal hrun
      have hperform : script.perform store now = (.ok (.ok script.output), after, []) := by
        simp [perform, heffects, Stage.carryOutAll, Effect.carryOut_eq htidy, hrun]
      rw [hperform] at h ⊢
      exact ⟨(Except.ok.inj h).symm, node, hnode, hbody⟩

end VirtualShell
