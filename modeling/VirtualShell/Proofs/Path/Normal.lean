import Mathlib.Tactic.Common
import VirtualShell.Path

/-!
# Paths in normal form

A path in normal form is the same thing as a list of segments, and every statement about the tree is
proved on that list.  The two views are joined here, in three groups.

**Pieces.**  Cutting a text at a separator distributes over an append that has the separator in its
middle (`pieces_append_sep`), and no piece holds the separator.

**Spelling.**  `spell` writes a list of segments as a path.  Reading such a path gives the segments
back (`normalSegments_ofSegments`), so `spell` is injective on segments proper.

**Normal form.**  `IsNormal` is what the theorems of the library speak of: a path that `normalize`
leaves as it is.  It holds exactly of the paths that are spelled from segments
(`isNormal_iff_spell`), in particular of whatever `normalize` and `resolve` answer.
-/

namespace VirtualShell

namespace Text

/-! ## Pieces -/

lemma pieces_ne_nil (sep : Char) (text : List Char) : pieces sep text ≠ [] := by
  cases text with
  | nil => simp
  | cons c cs =>
      by_cases hc : c = sep
      · subst hc
        simp [pieces_cons_sep]
      · rw [pieces_cons_of_ne hc]
        cases pieces sep cs <;> simp [consFirst]

/-- A character in front of two runs of pieces goes to the first piece of the first run. -/
lemma consFirst_append {c : Char} {parts : List (List Char)} (h : parts ≠ [])
    (more : List (List Char)) : consFirst c (parts ++ more) = consFirst c parts ++ more := by
  cases parts with
  | nil => exact absurd rfl h
  | cons part rest => rfl

lemma pieces_append_sep (sep : Char) (left right : List Char) :
    pieces sep (left ++ sep :: right) = pieces sep left ++ pieces sep right := by
  induction left with
  | nil => simp [pieces_cons_sep]
  | cons c cs ih =>
      by_cases hc : c = sep
      · subst hc
        simp [pieces_cons_sep, ih]
      · rw [List.cons_append, pieces_cons_of_ne hc, pieces_cons_of_ne hc, ih]
        exact consFirst_append (pieces_ne_nil sep cs) _

lemma pieces_of_not_mem {sep : Char} {text : List Char} (h : sep ∉ text) :
    pieces sep text = [text] := by
  induction text with
  | nil => rfl
  | cons c cs ih =>
      have hc : c ≠ sep := fun hc => h (by simp [hc])
      rw [pieces_cons_of_ne hc, ih fun hmem => h (List.mem_cons_of_mem c hmem)]
      rfl

lemma not_mem_of_mem_pieces {sep : Char} {text : List Char} :
    ∀ piece ∈ pieces sep text, sep ∉ piece := by
  induction text with
  | nil => simp
  | cons c cs ih =>
      by_cases hc : c = sep
      · subst hc
        simpa [pieces_cons_sep] using ih
      · rw [pieces_cons_of_ne hc]
        obtain ⟨first, rest, hparts⟩ := List.exists_cons_of_ne_nil (pieces_ne_nil sep cs)
        rw [hparts] at ih ⊢
        intro piece hpiece
        rcases List.mem_cons.mp hpiece with rfl | hpiece
        · have hfirst : sep ∉ first := ih first (by simp)
          simpa [Ne.symm hc] using hfirst
        · exact ih piece (List.mem_cons_of_mem first hpiece)

/-! ## Beginnings and last occurrences -/

/-- The last occurrence of a character is the one that it does not occur behind. -/
lemma cutAtLast?_append {c : Char} (left : List Char) {right : List Char} (h : c ∉ right) :
    cutAtLast? c (left ++ c :: right) = some (left, right) := by
  have hall : ∀ d ∈ right.reverse, (decide (d ≠ c)) = true := by
    intro d hd
    have hdc : d ≠ c := fun hdc => h (hdc ▸ List.mem_reverse.mp hd)
    simpa using hdc
  have hreverse : (left ++ c :: right).reverse = right.reverse ++ c :: left.reverse := by simp
  have hdrop : (left ++ c :: right).reverse.dropWhile (· ≠ c) = c :: left.reverse := by
    rw [hreverse, List.dropWhile_append_of_pos hall]
    simp
  have htake : (left ++ c :: right).reverse.takeWhile (· ≠ c) = right.reverse := by
    rw [hreverse, List.takeWhile_append_of_pos hall]
    simp
  simp only [cutAtLast?, hdrop, htake, List.reverse_reverse]

lemma dropBytes_zero (text : List Char) : dropBytes 0 text = text := by
  cases text with
  | nil => rfl
  | cons c cs => rw [dropBytes, if_neg (Nat.not_le.mpr c.utf8Size_pos)]

/-- The bytes of a beginning are dropped first. -/
lemma dropBytes_append (beginning rest : List Char) (budget : Nat) :
    dropBytes (byteLength beginning + budget) (beginning ++ rest) = dropBytes budget rest := by
  induction beginning with
  | nil => simp [byteLength]
  | cons c cs ih =>
      have hlength : byteLength (c :: cs) = c.utf8Size + byteLength cs := rfl
      rw [List.cons_append, dropBytes, hlength, Nat.add_assoc, if_pos (Nat.le_add_right _ _),
        Nat.add_sub_cancel_left, ih]

/-- Dropping the bytes of a beginning and of the slash behind it leaves the rest. -/
lemma dropBytes_append_slash (beginning rest : List Char) :
    dropBytes (byteLength beginning + 1) (beginning ++ '/' :: rest) = rest := by
  have hslash : ('/' : Char).utf8Size = 1 := by decide
  rw [dropBytes_append, dropBytes, hslash, if_pos (Nat.le_refl 1), Nat.sub_self, dropBytes_zero]

end Text

namespace Path

open Text

/-! ## Segments -/

/-- A text that can be a segment of a path in normal form. -/
def IsSegment (segment : List Char) : Prop :=
  segment ≠ [] ∧ segment ≠ ['.'] ∧ segment ≠ ['.', '.'] ∧ '/' ∉ segment

instance (segment : List Char) : Decidable (IsSegment segment) :=
  inferInstanceAs (Decidable (_ ∧ _ ∧ _ ∧ _))

/-- Texts that can all be segments. -/
def AreSegments (segments : List (List Char)) : Prop := ∀ segment ∈ segments, IsSegment segment

lemma areSegments_nil : AreSegments [] := by simp [AreSegments]

lemma areSegments_append {left right : List (List Char)} :
    AreSegments (left ++ right) ↔ AreSegments left ∧ AreSegments right := by
  simp [AreSegments, or_imp, forall_and]

lemma areSegments_singleton {segment : List Char} : AreSegments [segment] ↔ IsSegment segment := by
  simp [AreSegments]

/-- A step of reading keeps the segments proper: a piece has no slash in it, and the three texts
that are no segments are worked off. -/
lemma areSegments_walk {kept : List (List Char)} {piece : List Char} (hkept : AreSegments kept)
    (hpiece : '/' ∉ piece) : AreSegments (walk kept piece) := by
  simp only [walk]
  split_ifs with hskip hup
  · exact hkept
  · exact fun segment hmem => hkept segment (List.mem_of_mem_tail hmem)
  · intro segment hmem
    rcases List.mem_cons.mp hmem with rfl | hmem
    · exact ⟨fun h => hskip (Or.inl h), fun h => hskip (Or.inr h), hup, hpiece⟩
    · exact hkept segment hmem

lemma areSegments_foldl_walk {parts kept : List (List Char)} (hkept : AreSegments kept)
    (hparts : ∀ piece ∈ parts, '/' ∉ piece) : AreSegments (parts.foldl walk kept) := by
  induction parts generalizing kept with
  | nil => exact hkept
  | cons piece rest ih =>
      exact ih (areSegments_walk hkept (hparts piece (by simp)))
        fun other hother => hparts other (List.mem_cons_of_mem piece hother)

/-- What reading a path leaves are segments. -/
lemma areSegments_normalSegments (path : List Char) : AreSegments (normalSegments path) := by
  intro segment hmem
  exact areSegments_foldl_walk areSegments_nil not_mem_of_mem_pieces segment
    (List.mem_reverse.mp hmem)

/-- Segments proper are kept by reading, each in front of those before it. -/
lemma foldl_walk_segments {segments : List (List Char)} (h : AreSegments segments)
    (kept : List (List Char)) : segments.foldl walk kept = segments.reverse ++ kept := by
  induction segments generalizing kept with
  | nil => rfl
  | cons segment rest ih =>
      obtain ⟨hne, hdot, hdots, _⟩ := h segment (by simp)
      have hwalk : walk kept segment = segment :: kept := by
        simp [walk, hne, hdot, hdots]
      rw [List.foldl_cons, hwalk, ih fun other hother => h other (List.mem_cons_of_mem _ hother)]
      simp

/-! ## Spelling -/

/-- Segments each behind a slash.  This is `ofSegments` wherever there is a segment, and unlike it
distributes over appends. -/
def slashed (segments : List (List Char)) : List Char :=
  segments.flatMap fun segment => '/' :: segment

@[simp] lemma slashed_nil : slashed [] = [] := rfl

@[simp] lemma slashed_cons (segment : List Char) (rest : List (List Char)) :
    slashed (segment :: rest) = '/' :: (segment ++ slashed rest) := by
  simp [slashed]

lemma slashed_append (left right : List (List Char)) :
    slashed (left ++ right) = slashed left ++ slashed right := by
  simp [slashed]

lemma slash_glue_eq_slashed (segment : List Char) (rest : List (List Char)) :
    '/' :: glue ['/'] (segment :: rest) = slashed (segment :: rest) := by
  induction rest generalizing segment with
  | nil => simp [glue]
  | cons next rest ih =>
      have hglue : glue ['/'] (segment :: next :: rest)
          = segment ++ '/' :: glue ['/'] (next :: rest) := by
        simp [glue]
      rw [hglue, ih, slashed_cons, slashed_cons, slashed_cons]

lemma ofSegments_nil : ofSegments [] = ['/'] := rfl

lemma ofSegments_eq_slashed {segments : List (List Char)} (h : segments ≠ []) :
    ofSegments segments = slashed segments := by
  cases segments with
  | nil => exact absurd rfl h
  | cons segment rest => exact slash_glue_eq_slashed segment rest

lemma pieces_append_slashed {first : List Char} (hfirst : '/' ∉ first)
    {segments : List (List Char)} (h : AreSegments segments) :
    pieces '/' (first ++ slashed segments) = first :: segments := by
  induction segments generalizing first with
  | nil => simpa using pieces_of_not_mem hfirst
  | cons segment rest ih =>
      have hrest : AreSegments rest := fun other hother => h other (List.mem_cons_of_mem _ hother)
      rw [slashed_cons, pieces_append_sep, pieces_of_not_mem hfirst,
        ih (h segment (by simp)).2.2.2 hrest]
      rfl

/-- The pieces of a list of slashed segments: nothing, then the segments. -/
lemma pieces_slashed {segments : List (List Char)} (h : AreSegments segments) :
    pieces '/' (slashed segments) = [] :: segments := by
  simpa using pieces_append_slashed (show '/' ∉ ([] : List Char) by simp) h

/-- Reading what segments spell gives the segments back. -/
lemma normalSegments_ofSegments {segments : List (List Char)} (h : AreSegments segments) :
    normalSegments (ofSegments segments) = segments := by
  by_cases hne : segments = []
  · subst hne
    rfl
  · have hempty : walk [] [] = [] := by simp [walk]
    rw [normalSegments, ofSegments_eq_slashed hne, pieces_slashed h, List.foldl_cons, hempty,
      foldl_walk_segments h]
    simp

/-- The path that segments spell. -/
def spell (segments : List (List Char)) : String := String.ofList (ofSegments segments)

@[simp] lemma toList_spell (segments : List (List Char)) :
    (spell segments).toList = ofSegments segments := by
  simp [spell]

@[simp] lemma spell_nil : spell [] = "/" := rfl

lemma normalize_eq_spell (path : String) :
    normalize path = spell (normalSegments path.toList) := rfl

lemma normalize_spell {segments : List (List Char)} (h : AreSegments segments) :
    normalize (spell segments) = spell segments := by
  rw [normalize_eq_spell, toList_spell, normalSegments_ofSegments h]

lemma spell_inj {left right : List (List Char)} (hleft : AreSegments left)
    (hright : AreSegments right) : spell left = spell right ↔ left = right := by
  constructor
  · intro h
    have hread := congrArg (fun path : String => normalSegments path.toList) h
    simpa [normalSegments_ofSegments hleft, normalSegments_ofSegments hright] using hread
  · exact fun h => h ▸ rfl

/-- Only the root is spelled from no segments. -/
lemma spell_eq_root_iff {segments : List (List Char)} (h : AreSegments segments) :
    spell segments = "/" ↔ segments = [] := by
  rw [← spell_nil]
  exact spell_inj h areSegments_nil

/-! ## Normal form -/

/-- A path that `normalize` leaves as it is. -/
def IsNormal (path : String) : Prop := normalize path = path

instance (path : String) : Decidable (IsNormal path) :=
  inferInstanceAs (Decidable (normalize path = path))

lemma isNormal_spell {segments : List (List Char)} (h : AreSegments segments) :
    IsNormal (spell segments) := normalize_spell h

/-- **The two views of a path.**  A path is in normal form exactly if segments spell it. -/
theorem isNormal_iff_spell {path : String} :
    IsNormal path ↔ ∃ segments, AreSegments segments ∧ path = spell segments := by
  constructor
  · intro h
    exact ⟨normalSegments path.toList, areSegments_normalSegments _, h.symm⟩
  · rintro ⟨segments, hsegments, rfl⟩
    exact isNormal_spell hsegments

lemma isNormal_normalize (path : String) : IsNormal (normalize path) :=
  isNormal_spell (areSegments_normalSegments path.toList)

lemma isNormal_resolve (cwd raw : String) : IsNormal (resolve cwd raw) := isNormal_normalize _

end Path

end VirtualShell
