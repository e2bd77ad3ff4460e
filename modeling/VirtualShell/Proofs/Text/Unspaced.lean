import VirtualShell.Proofs.Text.Pieces
import VirtualShell.Text.LowerCase

/-!
# Texts without blanks

The words of a line have no blank in them (`unspaced_of_mem_words`), and whatever is cut out of such
a text or joined from such texts has none either.  A text without blanks is a line of its own
wherever it is written, if there is anything in it (`isLine_of_unspaced`).
-/

namespace VirtualShell.Text

/-- Characters none of which is blank. -/
def Unspaced (text : List Char) : Prop := ∀ c ∈ text, isBlank c = false

-- character by character of the text, not of all characters that there are
instance (text : List Char) : Decidable (Unspaced text) :=
  List.decidableBAll (fun c => isBlank c = false) text

variable {text other : List Char}

/-! ## Parts and wholes -/

lemma unspaced_nil : Unspaced [] := List.forall_mem_nil _

lemma unspaced_cons {c : Char} :
    Unspaced (c :: text) ↔ isBlank c = false ∧ Unspaced text := List.forall_mem_cons

lemma unspaced_append : Unspaced (text ++ other) ↔ Unspaced text ∧ Unspaced other :=
  List.forall_mem_append

lemma Unspaced.of_subset (h : Unspaced text) (hsubset : other ⊆ text) : Unspaced other :=
  fun c hc => h c (hsubset hc)

lemma Unspaced.not_mem (h : Unspaced text) {c : Char} (hblank : isBlank c = true) : c ∉ text := by
  intro hc
  rw [h c hc] at hblank
  exact Bool.noConfusion hblank

lemma trimBoth_subset (drop : Char → Bool) (text : List Char) : trimBoth drop text ⊆ text := by
  intro c hc
  have hend := (List.dropWhile_suffix _).subset (List.mem_reverse.mp hc)
  exact (List.dropWhile_suffix _).subset (List.mem_reverse.mp hend)

/-- What is joined with a glue. -/
lemma unspaced_intercalate {sep : List Char} {parts : List (List Char)} (hsep : Unspaced sep)
    (hparts : ∀ part ∈ parts, Unspaced part) : Unspaced (sep.intercalate parts) := by
  intro c hc
  rcases mem_of_mem_intercalate hc with hglue | ⟨part, hpart, hin⟩
  · exact hsep c hglue
  · exact hparts part hpart c hin

/-- A text without blanks is a line, unless it is empty. -/
lemma isLine_of_unspaced {text : String} (hne : text ≠ "") (h : Unspaced text.toList) :
    IsLine text :=
  ⟨hne, h.not_mem (by decide), h.not_mem (by decide)⟩

/-! ## Words -/

/-- Words are not empty and have no blank in them; by induction from the end of the text, with the
word that is being read. -/
lemma unspaced_of_mem_wordsOf {text word : List Char} (h : word ∈ wordsOf text) :
    word ≠ [] ∧ Unspaced word := by
  have hcut : ∀ (current : List Char) (found : List (List Char)), Unspaced current →
      (∀ word ∈ found, word ≠ [] ∧ Unspaced word) →
      ∀ word ∈ (if current.isEmpty then found else current :: found),
        word ≠ [] ∧ Unspaced word := by
    rintro (_ | ⟨c, current⟩) found hcurrent hfound
    · simpa using hfound
    · simpa using ⟨hcurrent, hfound⟩
  suffices hall : ∀ cut, cut = text.foldr
      (fun c acc =>
        if isBlank c then ([], if acc.1.isEmpty then acc.2 else acc.1 :: acc.2)
        else (c :: acc.1, acc.2)) (([] : List Char), ([] : List (List Char))) →
      Unspaced cut.1 ∧ ∀ word ∈ cut.2, word ≠ [] ∧ Unspaced word by
    obtain ⟨hcurrent, hfound⟩ := hall _ rfl
    exact hcut _ _ hcurrent hfound word h
  clear h
  induction text with
  | nil =>
      rintro cut rfl
      exact ⟨unspaced_nil, List.forall_mem_nil _⟩
  | cons c rest ih =>
      rintro cut rfl
      obtain ⟨hcurrent, hfound⟩ := ih _ rfl
      rw [List.foldr_cons]
      split
      · exact ⟨unspaced_nil, hcut _ _ hcurrent hfound⟩
      · rename_i hblank
        exact ⟨unspaced_cons.mpr ⟨Bool.eq_false_iff.mpr hblank, hcurrent⟩, hfound⟩

theorem unspaced_of_mem_words {line word : String} (h : word ∈ words line) :
    word ≠ "" ∧ Unspaced word.toList := by
  obtain ⟨chars, hchars, rfl⟩ := List.mem_map.mp h
  obtain ⟨hne, hunspaced⟩ := unspaced_of_mem_wordsOf hchars
  rw [String.toList_ofList]
  exact ⟨fun hempty => hne (by simpa using hempty), hunspaced⟩

lemma ne_empty_of_words {line first : String} {rest : List String}
    (h : words line = first :: rest) : ∀ word ∈ rest, word ≠ "" :=
  fun _ hword => (unspaced_of_mem_words (h ▸ List.mem_cons_of_mem first hword)).1

/-! ## Lower case -/

/-- No run of capitals has a blank among its small letters. -/
lemma runs_beside_blanks : ∀ run ∈ capitalRuns, ∀ range ∈ blankRanges,
    0 < range.1
      ∧ ((range.2 : Int) < run.first + run.shift ∨ run.last + run.shift < range.1) := by
  decide +kernel

lemma inRanges_of_isBlank_ofNat {n : Nat} (h : isBlank (Char.ofNat n) = true) :
    inRanges blankRanges n = true := by
  by_cases hvalid : n.isValidChar
  · have hn : (Char.ofNat n).toNat = n := by rw [Char.ofNat, dif_pos hvalid]; rfl
    rwa [isBlank, hn] at h
  · -- any other number names the null character
    have hnull : Char.ofNat n = Char.ofNat 0 := by rw [Char.ofNat, dif_neg hvalid]; rfl
    rw [hnull] at h
    exact absurd h (by decide)

lemma isBlank_toLower : ∀ n < 0x80, isBlank (Char.ofNat n) = false →
    isBlank (Char.ofNat n).toLower = false := by decide

lemma unspaced_lowerChar {c : Char} (h : isBlank c = false) : Unspaced (lowerChar c) := by
  rw [lowerChar]
  split
  case isTrue hascii =>
    have hlower := isBlank_toLower c.toNat hascii
    rw [Char.ofNat_toNat] at hlower
    exact unspaced_cons.mpr ⟨hlower h, unspaced_nil⟩
  case isFalse =>
    split
    case isTrue => decide
    case isFalse =>
      split
      case h_1 run hrun =>
        have hmem := List.mem_of_find?_eq_some hrun
        have hcovers := List.find?_some hrun
        refine unspaced_cons.mpr ⟨Bool.eq_false_iff.mpr fun hblank => ?_, unspaced_nil⟩
        obtain ⟨range, hrange, hin⟩ := List.any_eq_true.mp (inRanges_of_isBlank_ofNat hblank)
        have hbeside := runs_beside_blanks run hmem range hrange
        simp only [CaseRun.covers, Bool.and_eq_true, decide_eq_true_eq] at hcovers hin
        omega
      case h_2 => exact unspaced_cons.mpr ⟨h, unspaced_nil⟩

lemma unspaced_lowerFrom (before : List Char) (h : Unspaced text) :
    Unspaced (lowerFrom before text) := by
  induction text generalizing before with
  | nil => exact unspaced_nil
  | cons c rest ih =>
      rw [unspaced_cons] at h
      rw [lowerFrom, unspaced_append]
      refine ⟨?_, ih _ h.2⟩
      split
      · split <;> decide
      · exact unspaced_lowerChar h.1

/-- **Lower-casing makes no blanks.** -/
theorem unspaced_lowerCase {text : String} (h : Unspaced text.toList) :
    Unspaced (lowerCase text).toList := by
  rw [lowerCase, String.toList_ofList]
  exact unspaced_lowerFrom [] h

end VirtualShell.Text
