import VirtualShell.Proofs.Store.Bounds

/-!
# When a node can be created

`MayCreate` gathers what the tree and the limits ask of a draft: a free path under a directory, no
part of it too long, room for one more node, and for a file a text that is not too large.

A creation asks for one thing more.  What it holds against the limit on files is the size that the
draft will report, and a directory reports one too, which is the same for all.  So a creation
succeeds exactly where it may and the draft is a file, or the limit on files leaves room for the size
of a directory (`exists_create_iff`).  Under a smaller limit no directory can be made at all, though
none has a text.

Nodes are counted in a word, so under the largest limit there is always room.
-/

namespace VirtualShell.Store

open Time (Instant)

variable {store : Store} {draft : Draft} {now : Instant}

/-- What creating a node from a draft asks of a store. -/
structure MayCreate (store : Store) (draft : Draft) : Prop where
  free : store.contains draft.path = false
  parent : ∃ up, Path.parent? draft.path = some up ∧ store.isDirectory up = true
  allowed : store.limits.Allows draft.path
  room : store.size < store.limits.nodeCount ∨ unbounded ≤ store.limits.nodeCount
  text : ∀ text, draft.body = .file text → text.utf8ByteSize ≤ store.limits.fileSize

lemma room_iff {limits : Limits} {current : Nat} :
    limits.nodeCount? current 1 = none
      ↔ current < limits.nodeCount ∨ unbounded ≤ limits.nodeCount := by
  rw [nodeCount?_eq_none_iff]
  omega

/-- The size of a draft is within the limit on files: for a file that is the size of its text, for a
directory that of every directory. -/
lemma bodySize_le_iff {body : Body} {limit : Nat} :
    body.size ≤ limit
      ↔ (∀ text, body = .file text → text.utf8ByteSize ≤ limit)
        ∧ (body = .directory → Body.directorySize ≤ limit) := by
  cases body <;> simp [Body.size]

/-- **When a node can be created**, whatever the limits and the state of the store: exactly where it
may be, and if it is a directory, only where the limit on files reaches the size of a directory. -/
theorem exists_create_iff (store : Store) (draft : Draft) (now : Instant) :
    (∃ node after, store.create draft now = .ok (node, after))
      ↔ store.MayCreate draft
        ∧ (draft.body = .directory → Body.directorySize ≤ store.limits.fileSize) := by
  have hchecks : (∃ node after, store.create draft now = .ok (node, after))
      ↔ store.get? draft.path = none ∧ store.checkNew draft = .ok () := by
    simp only [create_eq_ok_iff]
    constructor
    · rintro ⟨_, _, hfree, hroom, -⟩
      exact ⟨hfree, hroom⟩
    · rintro ⟨hfree, hroom⟩
      exact ⟨_, _, hfree, hroom, rfl⟩
  rw [hchecks, checkNew_eq_ok_iff, checkParent_eq_ok_iff, Limits.path?_eq_none_iff, room_iff,
    bodySize_le_iff, ← contains_eq_false_iff]
  constructor
  · rintro ⟨hfree, hparent, hallowed, hroom, htext, hdirectory⟩
    exact ⟨⟨hfree, hparent, hallowed, hroom, htext⟩, hdirectory⟩
  · rintro ⟨⟨hfree, hparent, hallowed, hroom, htext⟩, hdirectory⟩
    exact ⟨hfree, hparent, hallowed, hroom, htext, hdirectory⟩

/-- Where a file may have a hundred bytes, a directory is refused for its size, though it may be
created. -/
theorem directory_refused_as_large_file :
    ∃ store draft, store = new { fileSize := 100 } ⟨0, 0⟩ ∧ draft = .directory "/home/user/x"
      ∧ store.MayCreate draft
      ∧ store.create draft ⟨1, 0⟩ = .error (.limitExceeded (.fileSize 4096 100)) := by
  have hmay : (new { fileSize := 100 } ⟨0, 0⟩).MayCreate (.directory "/home/user/x") :=
    { free := by decide +kernel
      parent := ⟨"/home/user", by decide +kernel⟩
      allowed := ⟨by decide +kernel, by decide +kernel⟩
      room := by decide +kernel
      text := fun _ htext => by simp at htext }
  refine ⟨_, _, rfl, rfl, hmay, ?_⟩
  decide +kernel

end VirtualShell.Store
