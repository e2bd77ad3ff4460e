import VirtualShell.Command.Content
import VirtualShell.Command.Files
import VirtualShell.Command.Navigation
import VirtualShell.Proofs.Command.Basic

/-!
# The commands that edit are sound

What a command hands to the store comes from arbitrary text.  Drafts normalise their paths, so
nothing can go wrong with `mkdir`, `touch` and `echo`; `rm` and `chmod` act on nodes that are there.
All but `rm` and `mv` only create nodes and write to them, and so are gentle.

**Copies.**  `cp` gives a copy the permissions of its source.  They display the kind of the source,
and the copy is of that kind, for a node at the target keeps its own and makes the copy fail if it
differs.

**Moves.**  `mv` asks for a target in normal form.  It joins the name of the source to a directory,
and that is a segment unless the source is the root, which does not move.
-/

namespace VirtualShell.Command

open VirtualShell.Path (IsNormal)

open Store (Edited Safe)

variable {call : Invocation} {store after : Store} {now : Time.Instant} {path : String}

/-- What every operand keeps, all of them keep. -/
lemma forEachOperand_preserves {P : Store → Prop} {act : Store → String → Option String × Store}
    {operands : List String}
    (hact : ∀ store, ∀ operand ∈ operands, P store → P (act store operand).2) (h : P store) :
    P (forEachOperand act operands store).2 := by
  induction operands generalizing store with
  | nil => exact h
  | cons operand rest ih =>
      exact ih (fun store later hlater => hact store later (List.mem_cons_of_mem operand hlater))
        (hact store operand List.mem_cons_self h)

lemma forEachOperand_edited {act : Store → String → Option String × Store} {operands : List String}
    (hact : ∀ {store operand}, Safe store → Edited store (act store operand).2) (h : Safe store) :
    Edited store (forEachOperand act operands store).2 :=
  forEachOperand_preserves (fun _ _ _ hbefore => hbefore.trans (hact hbefore.safe)) (.refl h)

/-! ## Making -/

lemma makeChain_edited {paths : List String} (h : Safe store) :
    Edited store (makeChain now paths store).2 := by
  induction paths generalizing store with
  | nil => exact .refl h
  | cons path rest ih =>
      simp only [makeChain]
      cases store.get? path with
      | some node =>
          by_cases hdir : node.isDirectory = true
          · simpa [hdir] using ih h
          · simpa [hdir] using .refl h
      | none =>
          cases hcreate : store.create (.directory path) now with
          | error failure => exact .refl h
          | ok made =>
              have hmade := h.createDirectory hcreate
              exact hmade.trans (ih hmade.safe)

lemma makeDirectory_edited (path : String) (now : Time.Instant) (h : Safe store) :
    Edited store (makeDirectory store path now).2 := by
  simp only [makeDirectory]
  cases hcreate : store.create (.directory path) now with
  | error failure => exact .refl h
  | ok made => exact h.createDirectory hcreate

lemma makeWithParents_edited (path : String) (now : Time.Instant) (h : Safe store) :
    Edited store (makeWithParents store path now).2 :=
  makeChain_edited h

lemma mkdirOperand_edited {parents : Bool} {operand : String} (h : Safe store) :
    Edited store (mkdirOperand call parents store operand).2 := by
  simp only [mkdirOperand]
  cases parents with
  | false =>
      have hmade := makeDirectory_edited (call.resolve operand) call.now h
      cases hmake : makeDirectory store (call.resolve operand) call.now with
      | mk outcome made =>
          rw [hmake] at hmade
          cases outcome <;> simpa [hmake] using hmade
  | true =>
      have hmade := makeWithParents_edited (call.resolve operand) call.now h
      cases hmake : makeWithParents store (call.resolve operand) call.now with
      | mk outcome made =>
          rw [hmake] at hmade
          cases outcome <;> simpa [hmake] using hmade

theorem gentle_mkdir : Gentle mkdir := by
  refine gentle_edit fun call store h => ?_
  cases flagsOr call "p" with
  | error verdict => exact .refl h
  | ok arguments =>
      obtain ⟨flags, operands⟩ := arguments
      cases operands with
      | nil => exact .refl h
      | cons operand rest =>
          have hall : Edited store (forEachOperand (mkdirOperand call (flags.contains 'p'))
              (operand :: rest) store).2 := forEachOperand_edited mkdirOperand_edited h
          simpa only [gathered] using hall

lemma touchOperand_edited {operand : String} (h : Safe store) :
    Edited store (touchOperand call store operand).2 := by
  simp only [touchOperand]
  by_cases hthere : store.contains (call.resolve operand) = true
  · cases hupdate : store.update (call.resolve operand) {} call.now with
    | error failure => simpa [hthere, hupdate] using .refl h
    | ok made => simpa [hthere, hupdate] using h.touch hupdate
  · cases hcreate : store.create (.file (call.resolve operand) "") call.now with
    | error failure => simpa [hthere, hcreate] using .refl h
    | ok made => simpa [hthere, hcreate] using h.createFile hcreate

theorem gentle_touch : Gentle touch := by
  refine gentle_edit fun call store h => ?_
  cases call.args.filter fun arg => !Text.startsWith "-" arg with
  | nil => exact .refl h
  | cons operand rest =>
      have hall : Edited store (forEachOperand (touchOperand call) (operand :: rest) store).2 :=
        forEachOperand_edited touchOperand_edited h
      simpa only [gathered] using hall

theorem gentle_echo : Gentle echo := by
  refine gentle_edit fun call store h => ?_
  have hinto : ∀ file text, Edited store (echoInto call store file text).2 := by
    intro file text
    simp only [echoInto]
    cases hupsert : store.upsert (.file (call.resolve file) text) call.now with
    | error failure => exact .refl h
    | ok made => exact h.upsertFile hupsert
  dsimp only
  cases splitRedirection (echoOptions call.args).2 with
  | error complaint => exact .refl h
  | ok split =>
      obtain ⟨words, destination⟩ := split
      cases destination with
      | screen => exact .refl h
      | overwrite file => exact hinto _ _
      | append file => exact hinto _ _

/-! ## Removing -/

lemma rmOperand_safe {force : Bool} {operand : String} (h : Safe store) :
    Safe (rmOperand call force store operand).2 := by
  simp only [rmOperand]
  by_cases hroot : call.resolve operand = "/"
  · simpa [hroot] using h
  · cases hdelete : store.delete (call.resolve operand) with
    | none => simpa [hroot, hdelete] using h
    | some after => simpa [hroot, hdelete] using h.delete hdelete

theorem sound_rm : Sound rm := by
  refine sound_edit fun call store h => ?_
  cases flagsOr call "rRf" with
  | error verdict => exact h
  | ok arguments =>
      obtain ⟨flags, operands⟩ := arguments
      cases operands with
      | nil => exact h
      | cons operand rest =>
          have hall : Safe (forEachOperand (rmOperand call (flags.contains 'f'))
              (operand :: rest) store).2 :=
            forEachOperand_preserves (fun _ _ _ => rmOperand_safe) h
          simpa only [gathered] using hall

/-! ## Copying and moving -/

/-- What the operands of `cp` and `mv` lead to: a node that is there, and the place named by the
other operand or inside it. -/
lemma transferOf_eq_ok {name : String} {operands : List String} {transfer : Transfer}
    (h : transferOf call store name operands = .ok transfer) :
    ∃ here there, operands = [here, there] ∧ store.get? (call.resolve here) = some transfer.source
      ∧ transfer.target = transferTarget store transfer.source (call.resolve there) := by
  simp only [transferOf] at h
  split at h
  · simp at h
  · simp at h
  · rename_i source target
    cases hget : store.get? (call.resolve source) with
    | none => simp [hget] at h
    | some node =>
        simp only [hget] at h
        split_ifs at h
        obtain rfl := Except.ok.inj h
        exact ⟨source, target, rfl, hget, rfl⟩
  · simp at h

/-- A copy is a draft with the body of its source, which then takes its permissions. -/
lemma copyNode_eq (now : Time.Instant) (node : Node) (target : String) (store : Store) :
    ∃ draft : Draft, draft.path = Path.normalize target ∧ draft.body = node.body
      ∧ Displays draft.body.kind draft.permissions
      ∧ copyNode now node target store
        = match store.upsert draft now with
          | .error failure => (.error failure, store)
          | .ok (_, store) =>
            match store.update target ⟨none, some node.permissions⟩ now with
            | .error failure => (.error failure, store)
            | .ok (_, store) => (.ok (), store) := by
  simp only [copyNode]
  cases hbody : node.body with
  | directory => exact ⟨.directory target, rfl, rfl, displays_directoryPermissions, rfl⟩
  | file content => exact ⟨.file target content, rfl, rfl, displays_filePermissions, rfl⟩

/-- The copy of a node shows its permissions, and they are right for it: it is of the same kind. -/
lemma copyNode_edited {node : Node} (now : Time.Instant) (target : String) (h : Safe store)
    (hnode : Displays node.body.kind node.permissions) :
    Edited store (copyNode now node target store).2 := by
  obtain ⟨draft, hpath, hbody, hdraft, hcopy⟩ := copyNode_eq now node target store
  rw [hcopy]
  cases hupsert : store.upsert draft now with
  | error failure => exact .refl h
  | ok made =>
      have hmade : Edited store made.2 := by
        refine ⟨h.of_change (Store.change_of_upsert draft ?_ hdraft hupsert),
          Store.retains_upsert hupsert⟩
        rw [hpath]
        exact Path.isNormal_normalize target
      cases hupdate : made.2.update target ⟨none, some node.permissions⟩ now with
      | error failure => simpa [hupdate] using hmade
      | ok again =>
          suffices hagain : Edited made.2 again.2 by simpa [hupdate] using hmade.trans hagain
          refine hmade.safe.setPermissions ?_ hupdate
          -- a node at the target stands at a normal path, and then it is the copy
          intro old hold
          obtain ⟨hget, hsame, -⟩ := Store.get?_upsert hupsert
          have hnormal : Path.normalize target = target := hmade.safe.tree.isNormal_of_get? hold
          rw [hpath, hnormal, hold, Option.some_inj] at hget
          rw [hget, hsame, hbody]
          exact hnode

lemma copyNodes_edited {source target : String} {nodes : List Node} (h : Safe store)
    (hnodes : ∀ node ∈ nodes, Displays node.body.kind node.permissions) :
    Edited store (copyNodes now source target nodes store).2 := by
  induction nodes generalizing store with
  | nil => exact .refl h
  | cons node rest ih =>
      rw [List.forall_mem_cons] at hnodes
      have hcopied := copyNode_edited now (Path.rebase node.path source target) h hnodes.1
      simp only [copyNodes]
      cases hcopy : copyNode now node (Path.rebase node.path source target) store with
      | mk outcome copied =>
          rw [hcopy] at hcopied
          cases outcome with
          | error failure => simpa [hcopy] using hcopied
          | ok => simpa [hcopy] using hcopied.trans (ih hcopied.safe hnodes.2)

/-- A copy of a tree takes its nodes from the store as it was. -/
lemma copyTree_edited {source : Node} (now : Time.Instant) (target : String) (h : Safe store)
    (hsource : source ∈ store.nodes) : Edited store (copyTree now source target store).2 := by
  refine copyNodes_edited h (List.forall_mem_cons.mpr ⟨h.shown source hsource, ?_⟩)
  intro node hnode
  split_ifs at hnode
  · rw [Store.descendants, List.mem_mergeSort] at hnode
    exact h.shown node (List.mem_of_mem_filter hnode)
  · simp at hnode

theorem gentle_cp : Gentle cp := by
  refine gentle_edit fun call store h => ?_
  cases hread : flagsOr call "rRpf" >>= fun arguments =>
      transferOf call store "cp" arguments.operands with
  | error verdict => exact .refl h
  | ok transfer =>
      obtain ⟨arguments, -, htransfer⟩ := bind_eq_ok_iff.mp hread
      obtain ⟨_, _, -, hsource, -⟩ := transferOf_eq_ok htransfer
      have hcopied := copyTree_edited call.now transfer.target h (Store.mem_of_get? hsource)
      unfold copyTransfer
      dsimp only
      split_ifs
      · exact .refl h
      · cases hcopy : copyTree call.now transfer.source transfer.target store with
        | mk outcome copied =>
            rw [hcopy] at hcopied
            cases outcome <;> simpa [hcopy] using hcopied

/-- The place that a move goes to is in normal form, unless it is the root that should move. -/
lemma isNormal_transferTarget {source : Node} (haccurate : source.Accurate)
    (hsource : IsNormal source.path) (hroot : source.path ≠ "/") (hpath : IsNormal path) :
    IsNormal (transferTarget store source path) := by
  simp only [transferTarget]
  rw [haccurate.name]
  split_ifs
  · exact Path.isNormal_join_fileName hpath hsource hroot
  · exact hpath

lemma moveTransfer_safe {transfer : Transfer} {there : String} (h : Safe store)
    (hsource : transfer.source ∈ store.nodes)
    (htarget : transfer.target = transferTarget store transfer.source (call.resolve there)) :
    Safe (moveTransfer call store transfer).2 := by
  simp only [moveTransfer]
  cases hrename : store.rename transfer.source.path transfer.target call.now with
  | error failure => cases failure <;> simpa [hrename] using h
  | ok after =>
      suffices hafter : Safe after by simpa [hrename] using hafter
      by_cases hsame : transfer.source.path = transfer.target
      · rw [Store.rename, if_pos hsame] at hrename
        exact pure_eq_ok_iff.mp hrename ▸ h
      · obtain ⟨_, _, hroot, -⟩ := (Store.rename_eq_ok_iff hsame).mp hrename
        refine h.rename ?_ hrename
        rw [htarget]
        exact isNormal_transferTarget (h.tree.accurate _ hsource) (h.tree.normal _ hsource) hroot
          (Path.isNormal_resolve _ _)

theorem sound_mv : Sound mv := by
  refine sound_edit fun call store h => ?_
  cases hread : flagsOr call "f" >>= fun arguments =>
      transferOf call store "mv" arguments.operands with
  | error verdict => exact h
  | ok transfer =>
      obtain ⟨arguments, -, htransfer⟩ := bind_eq_ok_iff.mp hread
      obtain ⟨_, _, -, hsource, htarget⟩ := transferOf_eq_ok htransfer
      exact moveTransfer_safe h (Store.mem_of_get? hsource) htarget

/-! ## Changing permissions -/

lemma chmodOperands_edited (call : Invocation) (mode : String) (operands : List String)
    (h : Safe store) : Edited store (chmodOperands call mode operands store).2 := by
  induction operands generalizing store with
  | nil => exact .refl h
  | cons operand rest ih =>
      simp only [chmodOperands]
      cases hget : store.get? (call.resolve operand) with
      | none => simpa [hget] using ih h
      | some node =>
          cases hmode : changedPermissions? node.permissions node.isDirectory mode with
          | none => simpa [hget, hmode] using .refl h
          | some permissions =>
              cases hupdate : store.update (call.resolve operand) ⟨none, some permissions⟩
                  call.now with
              | error failure => simpa [hget, hmode, hupdate] using .refl h
              | ok made =>
                  have hmade : Edited store made.2 := by
                    refine h.setPermissions ?_ hupdate
                    intro old hold
                    rw [hget, Option.some_inj] at hold
                    exact hold ▸ displays_changedPermissions? hmode
                  simpa [hget, hmode, hupdate] using hmade.trans (ih hmade.safe)

theorem gentle_chmod : Gentle chmod := by
  refine gentle_edit fun call store h => ?_
  cases call.args with
  | nil => exact .refl h
  | cons mode operands =>
      cases operands with
      | nil => exact .refl h
      | cons operand rest =>
          have hall := chmodOperands_edited call mode (operand :: rest) h
          cases hchmod : chmodOperands call mode (operand :: rest) store with
          | mk outcome after =>
              rw [hchmod] at hall
              cases outcome <;> simpa [hchmod] using hall

/-! ## Changing the directory -/

/-- `cd` changes to the directory that its operand names, if there is one, and else complains. -/
lemma cdTo_cases (call : Invocation) (store : Store) (operand : String) :
    (∃ dir shown, (if operand = "-" then call.session.previous else some (call.resolve operand))
        = some dir
      ∧ store.isDirectory dir = true ∧ cdTo call store operand = (.ok shown, some dir))
    ∨ ∃ complaint, cdTo call store operand = (.failed complaint, none) := by
  have hplace : ∀ dir shown, cdTarget call operand = .ok (dir, shown) →
      (store.isDirectory dir = true ∧ cdTo call store operand = (.ok shown, some dir))
        ∨ ∃ complaint, cdTo call store operand = (.failed complaint, none) := by
    intro dir shown htarget
    cases hget : store.get? dir with
    | none => exact Or.inr ⟨_, by simp only [cdTo, htarget, hget]; rfl⟩
    | some node =>
        by_cases hdir : node.isDirectory = true
        · exact Or.inl ⟨by simp [Store.isDirectory, hget, hdir],
            by simp [cdTo, htarget, hget, hdir]⟩
        · exact Or.inr ⟨_, by simp only [cdTo, htarget, hget, if_neg hdir]; rfl⟩
  by_cases hback : operand = "-"
  · cases hprevious : call.session.previous with
    | none => exact Or.inr ⟨_, by simp only [cdTo, cdTarget, if_pos hback, hprevious]; rfl⟩
    | some dir =>
        rw [if_pos hback]
        exact (hplace dir dir (by simp [cdTarget, hback, hprevious])).imp_left
          fun hthere => ⟨dir, dir, rfl, hthere⟩
  · rw [if_neg hback]
    exact (hplace (call.resolve operand) "" (by simp [cdTarget, hback])).imp_left
      fun hthere => ⟨_, "", rfl, hthere⟩

theorem gentle_cd : Gentle cd := by
  have hto : ∀ (call : Invocation) (store : Store) (operand dir : String),
      (cdTo call store operand).2 = some dir → store.contains dir = true := by
    intro call store operand dir h
    rcases cdTo_cases call store operand with ⟨found, shown, -, hdir, hcd⟩ | ⟨complaint, hcd⟩
    · obtain rfl : found = dir := by simpa [hcd] using h
      obtain ⟨node, hget, -⟩ := Store.isDirectory_iff.mp hdir
      exact Store.contains_eq_true_iff.mpr ⟨node, hget⟩
    · simp [hcd] at h
  refine gentle_navigate fun call store dir h => ?_
  split at h
  · exact hto call store Path.home dir h
  · exact hto call store _ dir h
  · simp at h

end VirtualShell.Command
