import Mathlib.Tactic.Common
import VirtualShell.Store.Basic

/-!
# What an operation on a store does

Each operation is read once here, as what it must have found when it succeeds and the store that it
leaves.  Later modules take an operation apart with these lemmas and do not unfold it again.

**Looking.**  `get?` finds a node by its path, and `isDirectory` is a node found with the body of a
directory.

**Checks.**  `checkParent`, `within` and `checkTarget` answer `ok` exactly under the conditions that
their names promise.

**Changes.**  All of them come down to four: a node is inserted, a node is replaced at its path,
a subtree is removed, a subtree is moved.  `create` inserts, `update` replaces, and `upsert` does
one or the other.
-/

namespace VirtualShell

open Time (Instant)

/-! ## Steps that may fail -/

section Failing

variable {ε α β : Type} {failure : Failure} {value result : β}

lemma bind_eq_ok_iff {step : Except ε α} {next : α → Except ε β} :
    (step >>= next) = .ok result ↔ ∃ made, step = .ok made ∧ next made = .ok result := by
  cases step <;> simp [bind, Except.bind]

/-- A check hands nothing on, so there is nothing to name behind it. -/
lemma check_eq_ok_iff {check : Except Failure Unit} {next : Unit → Except Failure β} :
    (check >>= next) = .ok result ↔ check = .ok () ∧ next () = .ok result := by
  cases check <;> simp [bind, Except.bind]

lemma map_eq_ok_iff {step : Except Failure α} {f : α → β} :
    (f <$> step) = .ok result ↔ ∃ made, step = .ok made ∧ result = f made := by
  cases step <;> simp [eq_comm]

lemma map_check_eq_ok_iff {check : Except Failure Unit} {f : Unit → β} :
    (f <$> check) = .ok result ↔ check = .ok () ∧ result = f () := by
  cases check <;> simp [eq_comm]

lemma pure_eq_ok_iff : (pure value : Except Failure β) = .ok result ↔ result = value := by
  simp [pure, Except.pure, eq_comm]

lemma throw_eq_ok_iff : (throw failure : Except Failure β) = .ok result ↔ False := by
  simp [throw, throwThe, MonadExceptOf.throw]

/-- What stands behind a guard is reached only past the guard. -/
lemma guard_eq_ok_iff {c : Prop} [Decidable c] {next : PUnit → Except Failure β} :
    (if c then throw failure >>= next else next ⟨⟩) = .ok result
      ↔ ¬ c ∧ next ⟨⟩ = .ok result := by
  by_cases hc : c <;> simp [hc, bind, Except.bind, throw, throwThe, MonadExceptOf.throw]

end Failing

lemma Node.isDirectory_iff {node : Node} : node.isDirectory = true ↔ node.body = .directory := by
  cases hbody : node.body <;> simp [Node.isDirectory, Node.kind, Body.kind, hbody]

lemma Node.isDirectory_congr {node other : Node} (h : node.body.kind = other.body.kind) :
    node.isDirectory = other.isDirectory := by
  change decide (node.body.kind = .directory) = decide (other.body.kind = .directory)
  rw [h]

lemma Body.kind_eq_directory_iff {body : Body} : body.kind = .directory ↔ body = .directory := by
  cases body <;> simp [Body.kind]

lemma Body.kind_eq_file_iff {body : Body} :
    body.kind = .file ↔ ∃ content, body = .file content := by
  cases body <;> simp [Body.kind]

/-- A node that takes over the body of another of its kind: a file is written, and a directory has
nothing to change but the time. -/
def Node.takeOver (node : Node) (now : Instant) : Body → Node
  | .file content => { node.write content with updated := now }
  | .directory => { node with updated := now }

namespace Node

variable {node : Node} {body : Body} {now : Instant}

@[simp] lemma takeOver_id : (node.takeOver now body).id = node.id := by cases body <;> rfl

@[simp] lemma takeOver_path : (node.takeOver now body).path = node.path := by cases body <;> rfl

@[simp] lemma takeOver_name : (node.takeOver now body).name = node.name := by cases body <;> rfl

@[simp] lemma takeOver_permissions : (node.takeOver now body).permissions = node.permissions := by
  cases body <;> rfl

@[simp] lemma takeOver_created : (node.takeOver now body).created = node.created := by
  cases body <;> rfl

lemma takeOver_body (h : node.body.kind = body.kind) : (node.takeOver now body).body = body := by
  cases body with
  | file content => rfl
  | directory => exact Body.kind_eq_directory_iff.mp h

end Node

namespace Store

variable {store after : Store} {path : String} {node old : Node} {draft : Draft} {now : Instant}

/-! ## Looking -/

lemma mem_of_get? (h : store.get? path = some node) : node ∈ store.nodes :=
  List.mem_of_find?_eq_some h

lemma path_of_get? (h : store.get? path = some node) : node.path = path := by
  simpa using List.find?_some h

lemma get?_path_of_get? (h : store.get? path = some node) : store.get? node.path = some node := by
  rw [path_of_get? h]
  exact h

lemma get?_eq_none_iff : store.get? path = none ↔ ∀ node ∈ store.nodes, node.path ≠ path := by
  simp [get?]

lemma exists_get?_of_mem (h : node ∈ store.nodes) : ∃ found, store.get? node.path = some found := by
  rw [← Option.isSome_iff_exists, ← Option.ne_none_iff_isSome, Ne, get?_eq_none_iff]
  exact fun hnone => hnone node h rfl

lemma contains_eq_true_iff : store.contains path = true ↔ ∃ node, store.get? path = some node := by
  simp [contains, Option.isSome_iff_exists]

lemma contains_eq_false_iff : store.contains path = false ↔ store.get? path = none := by
  simp [contains]

lemma isDirectory_iff :
    store.isDirectory path = true
      ↔ ∃ node, store.get? path = some node ∧ node.body = .directory := by
  cases hget : store.get? path <;> simp [isDirectory, hget, Node.isDirectory_iff]

/-! ## Checks -/

lemma within_eq_ok_iff {breach : Option Breach} : within breach = .ok () ↔ breach = none := by
  cases breach <;> simp [within]

lemma Limits.fileSize?_eq_none_iff {limits : Limits} {size : Nat} :
    limits.fileSize? size = none ↔ size ≤ limits.fileSize := by
  simp [Limits.fileSize?]

lemma checkParent_eq_ok_iff :
    store.checkParent path = .ok ()
      ↔ ∃ up, Path.parent? path = some up ∧ store.isDirectory up = true := by
  simp only [checkParent]
  cases hup : Path.parent? path with
  | none => simp
  | some up =>
      simp only [Option.some_inj, exists_eq_left', isDirectory]
      cases hget : store.get? up with
      | none => simp
      | some node => by_cases hdir : node.isDirectory = true <;> simp [hdir]

/-- Only a file may be replaced by a move, and only by a file. -/
lemma checkTarget_eq_ok_iff :
    store.checkTarget node path = .ok ()
      ↔ ∀ found, store.get? path = some found
          → found.isDirectory = false ∧ node.isDirectory = false := by
  simp only [checkTarget]
  cases hget : store.get? path with
  | none => simp
  | some found =>
      by_cases hfound : found.isDirectory = true <;> by_cases hnode : node.isDirectory = true <;>
        simp [hfound, hnode]

/-- A draft may become a node if its parent is a directory, its path and its size fit and there is
room for one more node. -/
lemma checkNew_eq_ok_iff :
    store.checkNew draft = .ok ()
      ↔ store.checkParent draft.path = .ok () ∧ store.limits.path? draft.path = none
        ∧ store.limits.nodeCount? store.size 1 = none
        ∧ draft.body.size ≤ store.limits.fileSize := by
  simp only [checkNew, check_eq_ok_iff, within_eq_ok_iff, Limits.fileSize?_eq_none_iff]

/-! ## Changes -/

@[simp] lemma insert_nodes :
    (store.insert draft now).2.nodes = store.nodes ++ [(store.insert draft now).1] := rfl

@[simp] lemma insert_nextId : (store.insert draft now).2.nextId = store.nextId + 1 := rfl

@[simp] lemma insert_path : (store.insert draft now).1.path = draft.path := rfl

@[simp] lemma replace_nextId : (store.replace node).nextId = store.nextId := rfl

lemma create_eq_ok_iff {result : Node × Store} :
    store.create draft now = .ok result
      ↔ store.get? draft.path = none ∧ store.checkNew draft = .ok ()
        ∧ result = store.insert draft now := by
  simp only [create, guard_eq_ok_iff, check_eq_ok_iff, pure_eq_ok_iff, Bool.not_eq_true,
    contains_eq_false_iff]

/-- The two ways in which `upsert` succeeds: it inserts where there is nothing, and gives the node
that is there the body of the draft where the kinds agree. -/
lemma upsert_eq_ok_iff {result : Node × Store} :
    store.upsert draft now = .ok result
      ↔ (store.get? draft.path = none ∧ store.checkNew draft = .ok ()
          ∧ result = store.insert draft now)
        ∨ ∃ old, store.get? draft.path = some old ∧ old.body.kind = draft.body.kind
          ∧ (∀ content, draft.body = .file content
              → content.utf8ByteSize ≤ store.limits.fileSize)
          ∧ result = (old.takeOver now draft.body,
              store.replace (old.takeOver now draft.body)) := by
  simp only [upsert]
  cases hget : store.get? draft.path with
  | none => simp [map_check_eq_ok_iff]
  | some old =>
      cases hbody : old.body <;> cases hdraft : draft.body <;>
        simp [hbody, Body.kind, Node.takeOver, map_check_eq_ok_iff, pure_eq_ok_iff,
          throw_eq_ok_iff, within_eq_ok_iff, Limits.fileSize?_eq_none_iff]

/-- An amendment of the content: a file takes a text that fits, and all else stays. -/
lemma amended_eq_ok_iff {made : Node} {content : Option String} :
    store.amended node content = .ok made
      ↔ (made = node ∧ (node.body = .directory ∨ content = none))
        ∨ ∃ old text, node.body = .file old ∧ content = some text
          ∧ text.utf8ByteSize ≤ store.limits.fileSize ∧ made = node.write text := by
  simp only [amended]
  cases hbody : node.body <;> cases content <;>
    simp [map_check_eq_ok_iff, within_eq_ok_iff, Limits.fileSize?_eq_none_iff, eq_comm (b := made)]

/-- An amendment of the content leaves all but the text and the size. -/
lemma kept_of_amended {made : Node} {content : Option String}
    (h : store.amended node content = .ok made) :
    made.id = node.id ∧ made.path = node.path ∧ made.name = node.name
      ∧ made.body.kind = node.body.kind ∧ made.created = node.created := by
  rcases amended_eq_ok_iff.mp h with ⟨rfl, -⟩ | ⟨_, _, hbody, -, -, rfl⟩
  · exact ⟨rfl, rfl, rfl, rfl, rfl⟩
  · exact ⟨rfl, rfl, rfl, by rw [hbody]; rfl, rfl⟩

lemma update_eq_ok_iff {amendment : Amendment} {result : Node × Store} :
    store.update path amendment now = .ok result
      ↔ ∃ old made, store.get? path = some old ∧ store.amended old amendment.content = .ok made
        ∧ result = ({ made with
              permissions := amendment.permissions.getD old.permissions
              updated := now },
            store.replace { made with
              permissions := amendment.permissions.getD old.permissions
              updated := now }) := by
  simp only [update]
  cases hget : store.get? path with
  | none => simp [throw_eq_ok_iff]
  | some old => simp [map_eq_ok_iff]

lemma delete_eq_some_iff :
    store.delete path = some after
      ↔ path ≠ "/" ∧ store.contains path = true
        ∧ after = { store with
            nodes := store.nodes.filter fun node =>
              node.path ≠ path && !Path.isBelow node.path path } := by
  simp only [delete]
  by_cases hroot : path = "/"
  · simp [hroot]
  · cases hcontains : store.contains path <;> simp [hroot, eq_comm]

/-- A move to another path: what stands at the target goes, and the subtree is carried over. -/
lemma rename_eq_ok_iff {source target : String} (hne : source ≠ target) :
    store.rename source target now = .ok after
      ↔ ∃ node, store.get? source = some node ∧ source ≠ "/"
        ∧ Path.isBelow target source = false ∧ store.checkParent target = .ok ()
        ∧ store.checkTarget node target = .ok () ∧ store.movedBreach? source target = none
        ∧ after = { store with
            nodes := (store.nodes.filter fun node => node.path ≠ target).map fun node =>
              if movesWith source node then moved source target now node else node } := by
  simp only [rename]
  rw [if_neg hne]
  cases hget : store.get? source with
  | none => simp [throw_eq_ok_iff]
  | some node =>
      simp only [guard_eq_ok_iff, check_eq_ok_iff, pure_eq_ok_iff, within_eq_ok_iff,
        Bool.not_eq_true, Option.some_inj, exists_eq_left']

end Store

end VirtualShell
