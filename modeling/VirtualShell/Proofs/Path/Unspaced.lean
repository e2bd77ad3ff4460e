import VirtualShell.Proofs.Path.Normal
import VirtualShell.Proofs.Text.Unspaced

/-!
# Paths without blanks

No operation on paths writes a character of its own, but for slashes and the name of the home
directory.  So a path is without blanks if what it is made from is: what a user types in a working
directory (`unspaced_resolve`), a name in a directory (`unspaced_join`), or a path that moves along
with another (`unspaced_rebase`).
-/

namespace VirtualShell

open Text (Unspaced unspaced_append unspaced_cons unspaced_nil)

/-! ## Cuts -/

lemma Text.cutAtLast?_subset {c : Char} {text : List Char} {sides : List Char × List Char}
    (h : cutAtLast? c text = some sides) : sides.1 ⊆ text ∧ sides.2 ⊆ text := by
  have hparts := List.takeWhile_append_dropWhile (p := (· ≠ c)) (l := text.reverse)
  simp only [cutAtLast?] at h
  split at h
  · simp at h
  · rename_i mark before hdrop
    obtain rfl := Option.some.inj h
    rw [hdrop] at hparts
    refine ⟨fun d hd => ?_, fun d hd => ?_⟩
    · rw [← List.mem_reverse, ← hparts]
      exact List.mem_append_right _ (List.mem_cons_of_mem _ (List.mem_reverse.mp hd))
    · rw [← List.mem_reverse, ← hparts]
      exact List.mem_append_left _ (List.mem_reverse.mp hd)

lemma Text.dropBytes_subset (budget : Nat) (text : List Char) : dropBytes budget text ⊆ text := by
  have hparts := takeBytes_append_dropBytes budget text
  exact fun c hc => hparts ▸ List.mem_append_right _ hc

namespace Path

variable {cwd raw dir name path source target up : String}

/-- Reading a path keeps segments of it and makes none. -/
lemma mem_of_mem_foldl_walk {segment : List Char} {parts kept : List (List Char)}
    (h : segment ∈ parts.foldl walk kept) : segment ∈ parts ∨ segment ∈ kept := by
  induction parts generalizing kept with
  | nil => exact Or.inr h
  | cons part rest ih =>
      rcases ih h with hrest | hwalk
      · exact Or.inl (List.mem_cons_of_mem part hrest)
      · simp only [walk] at hwalk
        split_ifs at hwalk
        · exact Or.inr hwalk
        · exact Or.inr (List.mem_of_mem_tail hwalk)
        · rcases List.mem_cons.mp hwalk with rfl | hkept
          · exact Or.inl List.mem_cons_self
          · exact Or.inr hkept

lemma unspaced_normalize (h : Unspaced path.toList) : Unspaced (normalize path).toList := by
  rw [normalize, String.toList_ofList, ofSegments, unspaced_cons]
  refine ⟨by decide, Text.unspaced_intercalate (by decide) fun segment hsegment => ?_⟩
  rw [normalSegments, List.mem_reverse] at hsegment
  have hpiece := (mem_of_mem_foldl_walk hsegment).resolve_right List.not_mem_nil
  exact h.of_subset fun c hc => Text.mem_of_mem_pieces hpiece hc

lemma unspaced_absolute (hcwd : Unspaced cwd.toList) (hraw : Unspaced raw.toList) :
    Unspaced (absolute cwd raw).toList := by
  unfold absolute
  split
  · exact hraw
  · decide
  · rename_i rest heq
    rw [heq] at hraw
    simp only [String.toList_append, unspaced_append, String.toList_ofList]
    exact ⟨by decide, (unspaced_cons.mp (unspaced_cons.mp hraw).2).2⟩
  · split
    · rw [String.toList_append, unspaced_append]
      exact ⟨by decide, hraw⟩
    · rw [String.toList_append, String.toList_append, unspaced_append, unspaced_append]
      exact ⟨⟨hcwd, by decide⟩, hraw⟩

lemma unspaced_resolve (hcwd : Unspaced cwd.toList) (hraw : Unspaced raw.toList) :
    Unspaced (resolve cwd raw).toList := unspaced_normalize (unspaced_absolute hcwd hraw)

lemma unspaced_join (hdir : Unspaced dir.toList) (hname : Unspaced name.toList) :
    Unspaced (join dir name).toList := by
  rw [join]
  split
  · rw [String.toList_append, unspaced_append]
    exact ⟨by decide, hname⟩
  · rw [String.toList_append, String.toList_append, unspaced_append, unspaced_append]
    exact ⟨⟨hdir, by decide⟩, hname⟩

lemma unspaced_below (ancestor : String) (h : Unspaced path.toList) :
    Unspaced (below path ancestor).toList := by
  rw [below]
  split
  · rw [String.toList_ofList]
    exact h.of_subset (Text.dropBytes_subset _ _)
  · rw [String.toList_ofList]
    exact h.of_subset (Text.dropBytes_subset _ _)

lemma unspaced_rebase (source : String) (h : Unspaced path.toList)
    (htarget : Unspaced target.toList) : Unspaced (rebase path source target).toList := by
  rw [rebase]
  split
  · exact htarget
  · exact unspaced_join htarget (unspaced_below source h)

lemma unspaced_fileName (h : Unspaced path.toList) : Unspaced (fileName path).toList := by
  rw [fileName]
  split
  · decide
  · rw [String.toList_ofList]
    refine h.of_subset fun c hc => ?_
    exact List.mem_reverse.mp ((List.takeWhile_prefix _).subset (List.mem_reverse.mp hc))

lemma unspaced_parent? (h : Unspaced path.toList) (hup : parent? path = some up) :
    Unspaced up.toList := by
  rw [parent?] at hup
  split at hup
  · simp at hup
  · obtain ⟨sides, hsides, rfl⟩ := Option.map_eq_some_iff.mp hup
    split
    · decide
    · rw [String.toList_ofList]
      exact h.of_subset (Text.cutAtLast?_subset hsides).1

lemma unspaced_of_mem_selfAndAncestors (h : Unspaced path.toList) :
    ∀ up ∈ selfAndAncestors path, Unspaced up.toList := by
  rw [selfAndAncestors]
  generalize path.length = steps
  induction steps generalizing path with
  | zero => simpa [selfAndAncestors.go] using h
  | succ n ih =>
      simp only [selfAndAncestors.go]
      cases hup : parent? path with
      | none => simpa using h
      | some up => exact List.forall_mem_cons.mpr ⟨h, ih (unspaced_parent? h hup)⟩

end Path

end VirtualShell
