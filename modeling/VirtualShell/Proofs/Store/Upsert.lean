import VirtualShell.Proofs.Store.Change
import VirtualShell.Proofs.Store.InPlace
import VirtualShell.Proofs.Store.Run

/-!
# Writing to what may be there

`upsert` is written out by itself, beside `create` and `update`.  Simulated tools, copies and `echo`
write through the one, while `chmod` and the undoing of a script write through the other, so it
matters that they agree.  What stands at the path of the draft decides:

* nothing — `upsert` is `create`;
* a node of the same kind — `upsert` is `update`, with the text of the draft if it is a file;
* a node of the other kind — `upsert` fails, and says what is in the way.

A text that is left out means different things to the two: to a draft it is the empty text, and to
an amendment the one that is there (`missing_text_empties`).

`upsert_agrees` puts the cases together, for the operations that answer a new store and for those
that change one in place.  Nothing is asked of the store.
-/

namespace VirtualShell.Store

open Time (Instant)

variable {store : Store} {draft : Draft} {old : Node} {text : String} {now : Instant}

/-! ## Nothing is there -/

lemma upsert_of_free (h : store.get? draft.path = none) :
    store.upsert draft now = store.create draft now := by
  have hfree : store.contains draft.path = false := contains_eq_false_iff.mpr h
  simp [upsert, create, h, hfree]

/-! ## A node of the same kind is there -/

/-- The size of the text is all that is checked, and all that is written is the text, its size and
the time. -/
lemma upsert_file_of_file (now : Instant) (h : store.get? draft.path = some old)
    (hold : old.kind = .file) (hdraft : draft.body = .file text) :
    store.upsert draft now = store.update draft.path { content := some text } now := by
  obtain ⟨before, hbody⟩ := Body.kind_eq_file_iff.mp hold
  cases hsize : store.limits.fileSize? text.utf8ByteSize with
  | some breach => simp [upsert, update, amended, h, hbody, hdraft, hsize, within]
  | none => simp [upsert, update, amended, h, hbody, hdraft, hsize, within, Node.write]

/-- What an `upsert` makes of a file: the same node with another text. -/
lemma upsert_file_eq_ok {result : Node × Store} (h : store.get? draft.path = some old)
    (hdraft : draft.body = .file text) (hupsert : store.upsert draft now = .ok result) :
    result.2.get? draft.path = some result.1
      ∧ result.1 = { old with body := .file text, size := text.utf8ByteSize, updated := now } := by
  obtain ⟨hthere, -, -, htaken⟩ := get?_upsert hupsert
  refine ⟨hthere, ?_⟩
  rw [(htaken old h).2, hdraft]
  rfl

lemma upsert_directory_of_directory (now : Instant) (h : store.get? draft.path = some old)
    (hold : old.kind = .directory) (hdraft : draft.body = .directory) :
    store.upsert draft now = store.update draft.path {} now := by
  have hbody : old.body = .directory := Body.kind_eq_directory_iff.mp hold
  simp [upsert, update, amended, h, hbody, hdraft, pure, Except.pure]

/-! ## A node of the other kind is there -/

lemma upsert_file_of_directory (now : Instant) (h : store.get? draft.path = some old)
    (hold : old.kind = .directory) (hdraft : draft.body = .file text) :
    store.upsert draft now = .error (.isADirectory draft.path) := by
  have hbody : old.body = .directory := Body.kind_eq_directory_iff.mp hold
  simp [upsert, h, hbody, hdraft, throw_eq_error]

lemma upsert_directory_of_file (now : Instant) (h : store.get? draft.path = some old)
    (hold : old.kind = .file) (hdraft : draft.body = .directory) :
    store.upsert draft now = .error (.alreadyExists draft.path) := by
  obtain ⟨before, hbody⟩ := Body.kind_eq_file_iff.mp hold
  simp [upsert, h, hbody, hdraft, throw_eq_error]

/-! ## All cases -/

/-- An `upsert` in place ends as another edit, if it answers what that edit comes to. -/
lemma run_upsert_eq {edit : Edit Node} {result : Except Failure (Node × Store)}
    (hrun : edit.run store = ending store result) (h : store.upsert draft now = result) :
    (InPlace.upsert draft now).run store = edit.run store := by
  rw [run_upsert, h, hrun]

/-- **`upsert` is `create` or `update`**, on any store and for any draft, in what it answers and in
what it leaves.  At a free path it is `create`.  A file that is there takes the text of a file as by
`update`, the empty one if the draft leaves its text out, and keeps its number, its time of creation
and its permissions; a directory that is there is amended by nothing.  Where the kinds differ it
fails, and the store is as it was. -/
theorem upsert_agrees (store : Store) (draft : Draft) (now : Instant) :
    (store.get? draft.path = none →
        store.upsert draft now = store.create draft now
        ∧ (InPlace.upsert draft now).run store = (InPlace.create draft now).run store)
      ∧ ∀ old, store.get? draft.path = some old →
        (old.kind = .file → draft.kind = .file →
          let amendment : Amendment := { content := some (draft.content.getD "") }
          store.upsert draft now = store.update draft.path amendment now
          ∧ (InPlace.upsert draft now).run store
            = (InPlace.update draft.path amendment now).run store
          ∧ ∀ node after, store.upsert draft now = .ok (node, after) →
            after.get? draft.path = some node ∧ node =
              { old with
                body := .file (draft.content.getD "")
                size := (draft.content.getD "").utf8ByteSize
                updated := now })
        ∧ (old.kind = .directory → draft.kind = .directory →
          store.upsert draft now = store.update draft.path {} now
          ∧ (InPlace.upsert draft now).run store = (InPlace.update draft.path {} now).run store)
        ∧ (old.kind = .directory → draft.kind = .file →
          store.upsert draft now = .error (.isADirectory draft.path)
          ∧ (InPlace.upsert draft now).run store = .error (.isADirectory draft.path) store)
        ∧ (old.kind = .file → draft.kind = .directory →
          store.upsert draft now = .error (.alreadyExists draft.path)
          ∧ (InPlace.upsert draft now).run store = .error (.alreadyExists draft.path) store) := by
  refine ⟨fun hfree => ?_, fun old hget => ⟨fun hold hdraft => ?_, fun hold hdraft => ?_,
    fun hold hdraft => ?_, fun hold hdraft => ?_⟩⟩
  · have hsame : store.upsert draft now = store.create draft now := upsert_of_free hfree
    exact ⟨hsame, run_upsert_eq run_create hsame⟩
  · have hbody := Draft.body_of_file hdraft
    have hsame := upsert_file_of_file now hget hold hbody
    exact ⟨hsame, run_upsert_eq run_update hsame,
      fun node after hupsert => upsert_file_eq_ok hget hbody hupsert⟩
  · have hsame := upsert_directory_of_directory now hget hold (Draft.body_of_directory hdraft)
    exact ⟨hsame, run_upsert_eq run_update hsame⟩
  · have hfails := upsert_file_of_directory now hget hold (Draft.body_of_file hdraft)
    exact ⟨hfails, by rw [run_upsert, hfails, ending]⟩
  · have hfails := upsert_directory_of_file now hget hold (Draft.body_of_directory hdraft)
    exact ⟨hfails, by rw [run_upsert, hfails, ending]⟩

/-- A file with rights of its own is written to twice, under a limit that only the first text keeps
to, and then without a text.  A file can then be put neither where there is none nor over a
directory. -/
theorem upsert_agrees_of_rights :
    ∃ store node after, store = (new { fileSize := 10, nodeCount := 9 } ⟨0, 0⟩).run
        [(⟨1, 0⟩, .create ((Draft.file "/home/user/a" "old").withPermissions "-rwx------"))]
      ∧ store.upsert (.file "/home//user/a" "a new text") ⟨2, 0⟩ = .ok (node, after)
      ∧ after.get? "/home/user/a" = some node
      ∧ (node.id, node.created, node.permissions) = (9, ⟨1, 0⟩, "-rwx------")
      ∧ store.upsert (.file "/home/user/a" "a longer text") ⟨2, 0⟩
        = store.update "/home/user/a" { content := some "a longer text" } ⟨2, 0⟩
      ∧ store.upsert ⟨"/home/user/a", .file, none, filePermissions⟩ ⟨2, 0⟩
        = store.update "/home/user/a" { content := some "" } ⟨2, 0⟩
      ∧ store.upsert (.file "/home/user/b" "") ⟨2, 0⟩
        = store.create (.file "/home/user/b" "") ⟨2, 0⟩
      ∧ (InPlace.upsert (.file "/home" "") ⟨2, 0⟩).run store
        = .error (.isADirectory "/home") store := by
  obtain ⟨store, hstore⟩ : ∃ store, store = (new { fileSize := 10, nodeCount := 9 } ⟨0, 0⟩).run
      [(⟨1, 0⟩, .create ((Draft.file "/home/user/a" "old").withPermissions "-rwx------"))] :=
    ⟨_, rfl⟩
  have hfacts : (store.get? "/home/user/a").map (fun node => (node.id, node.created,
        node.permissions, node.kind)) = some (9, ⟨1, 0⟩, "-rwx------", .file)
      ∧ (store.get? "/home").map Node.kind = some .directory
      ∧ store.get? "/home/user/b" = none
      ∧ (store.upsert (.file "/home//user/a" "a new text") ⟨2, 0⟩).toOption.isSome = true := by
    rw [hstore]
    decide +kernel
  have hspelled : (Draft.file "/home//user/a" "a new text").path = "/home/user/a"
      ∧ (Draft.file "/home/user/a" "a longer text").path = "/home/user/a"
      ∧ (Draft.file "/home" "").path = "/home"
      ∧ (Draft.file "/home/user/b" "").path = "/home/user/b" := by decide +kernel
  simp only [Option.map_eq_some_iff, Prod.mk.injEq] at hfacts
  obtain ⟨⟨old, hold, hid, hcreated, hpermissions, hfile⟩, ⟨home, hhome, hdirectory⟩, hfree,
    hdone⟩ := hfacts
  obtain ⟨⟨node, after⟩, hupsert⟩ := Option.isSome_iff_exists.mp hdone
  rw [toOption_eq_some_iff] at hupsert
  obtain ⟨-, hthere⟩ := upsert_agrees store (.file "/home//user/a" "a new text") ⟨2, 0⟩
  obtain ⟨-, hlonger⟩ := upsert_agrees store (.file "/home/user/a" "a longer text") ⟨2, 0⟩
  obtain ⟨-, hempty⟩ := upsert_agrees store ⟨"/home/user/a", .file, none, filePermissions⟩ ⟨2, 0⟩
  obtain ⟨-, hover⟩ := upsert_agrees store (.file "/home" "") ⟨2, 0⟩
  obtain ⟨hnew, -⟩ := upsert_agrees store (.file "/home/user/b" "") ⟨2, 0⟩
  simp only [hspelled] at hthere hlonger hover hnew
  obtain ⟨hget, hnode⟩ := ((hthere old hold).1 hfile rfl).2.2 node after hupsert
  refine ⟨store, node, after, hstore, hupsert, hget, ?_, ((hlonger old hold).1 hfile rfl).1,
    ((hempty old hold).1 hfile rfl).1, (hnew hfree).1, ((hover home hhome).2.2.1 hdirectory rfl).2⟩
  rw [hnode, hid, hcreated, hpermissions]

/-- A draft of a file that leaves its text out empties the file that is there, while an amendment
that leaves it out keeps it. -/
theorem missing_text_empties :
    ∃ store draft, store = new {} ⟨0, 0⟩
      ∧ draft = ⟨"/home/user/.profile", .file, none, filePermissions⟩
      ∧ (store.get? draft.path).map Node.kind = some .file
      ∧ (store.upsert draft ⟨1, 0⟩).toOption.map (fun done => done.1.text) = some ""
      ∧ (store.update draft.path { content := draft.content } ⟨1, 0⟩).toOption.map
          (fun done => done.1.text) = some loginProfile
      ∧ store.upsert draft ⟨1, 0⟩
        ≠ store.update draft.path { content := draft.content } ⟨1, 0⟩ := by
  refine ⟨_, _, rfl, rfl, ?_, ?_, ?_, ?_⟩
  all_goals decide +kernel

end VirtualShell.Store
