import VirtualShell.Proofs.Path.Normal

/-!
# Cutting and joining

Cutting a text at a separator and joining the pieces with it undo each other: joined pieces are the
text again, and parts without the separator are the pieces of what they are joined to
(`intercalate_pieces`, `pieces_intercalate`).

Lines are pieces with two exceptions at their ends: an empty last line is not seen, and a carriage
return in front of a line feed is dropped.  So texts are read back line by line as they were written
(`linesOf_intercalate`), provided that none is empty and none holds either character (`IsLine`).
Texts that are ended by a line feed each may be empty too (`linesOf_unlines`).
-/

namespace VirtualShell.Text

/-! ## Pieces -/

/-- The pieces of a text joined again. -/
lemma intercalate_pieces (sep : Char) (text : List Char) :
    [sep].intercalate (pieces sep text) = text := by
  induction text with
  | nil => rw [pieces_nil, List.intercalate_singleton]
  | cons c rest ih =>
      obtain ⟨first, more, hparts⟩ := List.exists_cons_of_ne_nil (pieces_ne_nil sep rest)
      by_cases hc : c = sep
      · subst hc
        rw [pieces_cons_sep, hparts, List.intercalate_cons_cons, ← hparts, ih]
        rfl
      · rw [pieces_cons_of_ne hc, hparts, consFirst]
        rw [hparts] at ih
        cases more with
        | nil =>
            rw [List.intercalate_singleton] at ih ⊢
            rw [ih]
        | cons next more =>
            rw [List.intercalate_cons_cons, List.append_assoc] at ih ⊢
            rw [List.cons_append, ih]

/-- Parts without the separator are the pieces of what they are joined to. -/
lemma pieces_intercalate {sep : Char} {parts : List (List Char)} (hne : parts ≠ [])
    (hparts : ∀ part ∈ parts, sep ∉ part) : pieces sep ([sep].intercalate parts) = parts := by
  induction parts with
  | nil => exact absurd rfl hne
  | cons part rest ih =>
      rw [List.forall_mem_cons] at hparts
      cases rest with
      | nil => rw [List.intercalate_singleton, pieces_of_not_mem hparts.1]
      | cons next rest =>
          rw [List.intercalate_cons_cons, List.append_assoc, List.singleton_append,
            pieces_append_sep, pieces_of_not_mem hparts.1, ih (List.cons_ne_nil _ _) hparts.2]
          rfl

/-- What is joined holds all that its parts hold. -/
lemma mem_intercalate_of_mem {sep part : List Char} {parts : List (List Char)} {c : Char}
    (hpart : part ∈ parts) (hc : c ∈ part) : c ∈ sep.intercalate parts := by
  induction parts with
  | nil => simp at hpart
  | cons first rest ih =>
      cases rest with
      | nil =>
          rw [List.mem_singleton] at hpart
          rwa [List.intercalate_singleton, ← hpart]
      | cons next rest =>
          rw [List.intercalate_cons_cons]
          rcases List.mem_cons.mp hpart with rfl | hlater
          · exact List.mem_append_left _ (List.mem_append_left _ hc)
          · exact List.mem_append_right _ (ih hlater)

/-- And nothing else but the glue. -/
lemma mem_of_mem_intercalate {sep : List Char} {parts : List (List Char)} {c : Char}
    (h : c ∈ sep.intercalate parts) : c ∈ sep ∨ ∃ part ∈ parts, c ∈ part := by
  induction parts with
  | nil => simp at h
  | cons first rest ih =>
      cases rest with
      | nil =>
          rw [List.intercalate_singleton] at h
          exact Or.inr ⟨first, List.mem_cons_self, h⟩
      | cons next rest =>
          rw [List.intercalate_cons_cons, List.mem_append, List.mem_append] at h
          rcases h with (hfirst | hsep) | hrest
          · exact Or.inr ⟨first, List.mem_cons_self, hfirst⟩
          · exact Or.inl hsep
          · exact (ih hrest).imp_right fun ⟨part, hpart, hc⟩ =>
              ⟨part, List.mem_cons_of_mem first hpart, hc⟩

/-- A piece holds only what the text holds. -/
lemma mem_of_mem_pieces {sep c : Char} {text piece : List Char} (hpiece : piece ∈ pieces sep text)
    (hc : c ∈ piece) : c ∈ text :=
  intercalate_pieces sep text ▸ mem_intercalate_of_mem hpiece hc

/-! ## Lines -/

/-- A text that is read back as the one line it is, wherever it stands. -/
structure IsLine (text : String) : Prop where
  ne_empty : text ≠ ""
  unbroken : '\n' ∉ text.toList
  /-- A carriage return would be taken for a part of the line's end. -/
  unreturned : '\r' ∉ text.toList

instance (text : String) : Decidable (IsLine text) :=
  decidable_of_iff (text ≠ "" ∧ '\n' ∉ text.toList ∧ '\r' ∉ text.toList)
    ⟨fun h => ⟨h.1, h.2.1, h.2.2⟩, fun h => ⟨h.1, h.2, h.3⟩⟩

/-- **Lines written one below the other are read back.** -/
theorem linesOf_intercalate {texts : List String} (h : ∀ text ∈ texts, IsLine text) :
    linesOf ("\n".intercalate texts) = texts := by
  rcases List.eq_nil_or_concat texts with rfl | ⟨front, last, rfl⟩
  · rfl
  rw [List.concat_eq_append] at h ⊢
  have hpieces : pieces '\n' ("\n".intercalate (front ++ [last])).toList
      = front.map String.toList ++ [last.toList] := by
    rw [String.toList_intercalate, List.map_append]
    refine pieces_intercalate (by simp) fun part hpart => ?_
    rw [← List.map_append, List.mem_map] at hpart
    obtain ⟨text, htext, rfl⟩ := hpart
    exact (h text htext).unbroken
  have hreturn : ∀ text ∈ front, dropReturn text.toList = text.toList := by
    intro text htext
    refine if_neg fun hlast => ?_
    exact (h text (List.mem_append_left _ htext)).unreturned (List.mem_of_getLast? hlast)
  have hlast : last.toList.isEmpty = false := by
    rw [Bool.eq_false_iff, Ne, List.isEmpty_iff, String.toList_eq_nil_iff]
    exact (h last (by simp)).ne_empty
  have hfront : (front.map String.toList).map dropReturn = front.map String.toList := by
    rw [List.map_map]
    exact List.map_congr_left hreturn
  have hlines : lines ("\n".intercalate (front ++ [last])).toList
      = front.map String.toList ++ [last.toList] := by
    simp only [lines, hpieces, List.dropLast_concat, List.getLast?_concat, hfront, hlast,
      Bool.false_eq_true, if_false]
  rw [linesOf, hlines, List.map_append, List.map_map]
  simp [Function.comp_def]

/-- **Lines ended one by one are read back.** -/
theorem linesOf_unlines {texts : List String}
    (h : ∀ text ∈ texts, '\n' ∉ text.toList ∧ '\r' ∉ text.toList) :
    linesOf (unlines texts) = texts := by
  have hpieces : pieces '\n' (unlines texts).toList = texts.map String.toList ++ [[]] := by
    induction texts with
    | nil => rfl
    | cons text rest ih =>
        rw [List.forall_mem_cons] at h
        have hunlines : (unlines (text :: rest)).toList
            = text.toList ++ '\n' :: (unlines rest).toList := by
          simp [unlines]
        rw [hunlines, pieces_append_sep, pieces_of_not_mem h.1.1, ih h.2]
        rfl
  have hreturn : ∀ text ∈ texts, dropReturn text.toList = text.toList := by
    intro text htext
    exact if_neg fun hlast => (h text htext).2 (List.mem_of_getLast? hlast)
  have hends : (texts.map String.toList).map dropReturn = texts.map String.toList := by
    rw [List.map_map]
    exact List.map_congr_left hreturn
  rw [linesOf, lines, hpieces, List.dropLast_concat, List.getLast?_concat, hends]
  simp [Function.comp_def]

end VirtualShell.Text
