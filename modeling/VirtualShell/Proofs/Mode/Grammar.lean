import Mathlib.Data.List.Forall2
import Mathlib.Data.List.TakeWhile
import Mathlib.Tactic.IntervalCases
import VirtualShell.Permissions
import VirtualShell.Proofs.Text.Pieces

/-!
# What is a mode

The three ways to write a mode, said of the text alone: octal digits, a literal in nine characters,
and clauses between commas.  Each is compared with the function that reads it.

**Agreement.**  Octal modes and literals are read exactly if they are ones, and so is a clause whose
letters before the sign name classes.

**A gap.**  Once an `a` has been seen among the letters before a sign, the others are not looked at.
A clause with an `a` and letters that name nothing is read as one for all classes, although without
the `a` it would be refused.  `accepted_iff` says that these clauses are the only ones outside the
grammar that are read, and `stray_letters_accepted` shows a mode of the kind.
-/

namespace VirtualShell.Mode

open Text

/-! ## The grammar -/

/-- One to four octal digits. -/
def IsOctal (mode : List Char) : Prop :=
  mode ≠ [] ∧ mode.length ≤ 4 ∧ ∀ c ∈ mode, c ∈ "01234567".toList

/-- Nine characters, each a hyphen or the letter of its place. -/
def IsLiteral (mode : List Char) : Prop :=
  List.Forall₂ (fun shown letter => shown = '-' ∨ shown = letter) mode "rwxrwxrwx".toList

/-- A clause: characters that say whom it concerns, a sign, and the letters of rights. -/
def IsClause (Concerns : List Char → Prop) (clause : List Char) : Prop :=
  ∃ whom sign rights, clause = whom ++ sign :: rights ∧ Concerns whom ∧ sign ∈ "+-=".toList
    ∧ ∀ c ∈ rights, c ∈ "rwx".toList

/-- One clause or more, with a comma between each two. -/
def IsSymbolic (Concerns : List Char → Prop) (mode : List Char) : Prop :=
  ∃ clauses, clauses ≠ [] ∧ mode = [','].intercalate clauses
    ∧ ∀ clause ∈ clauses, IsClause Concerns clause

/-- Letters that each stand for a class, or for all classes. -/
def NamesClasses (whom : List Char) : Prop := ∀ c ∈ whom, c ∈ "ugoa".toList

/-- A mode as it should be. -/
def InGrammar (mode : String) : Prop :=
  IsOctal mode.toList ∨ IsLiteral mode.toList ∨ IsSymbolic NamesClasses mode.toList

/-- Characters that name no class, hidden by an `a`. -/
structure HidesStray (whom : List Char) : Prop where
  all : 'a' ∈ whom
  stray : ∃ c ∈ whom, c ∉ "ugoa".toList
  /-- A comma or a sign would end the clause, or what stands before the sign. -/
  separate : ∀ c ∈ whom, c ∉ ",+-=".toList

/-- What is taken for classes. -/
def IsTakenForClasses (whom : List Char) : Prop := NamesClasses whom ∨ HidesStray whom

variable {mode clause whom : List Char} {c : Char}

/-! ## Octal modes and literals -/

lemma isSome_mapM_iff {α β : Type} {f : α → Option β} {items : List α} :
    (items.mapM f).isSome = true ↔ ∀ item ∈ items, (f item).isSome = true := by
  induction items with
  | nil => simp
  | cons item rest ih =>
      rw [List.mapM_cons, List.forall_mem_cons, ← ih]
      cases f item <;> cases rest.mapM f <;> simp

lemma isSome_octalDigit?_iff : (octalDigit? c).isSome = true ↔ c ∈ "01234567".toList := by
  constructor
  · intro h
    have hrange : 48 ≤ c.toNat ∧ c.toNat ≤ 55 := by
      by_contra hnot
      have hfalse : ('0' ≤ c && c ≤ '7') = false := by
        rw [Bool.and_eq_false_iff, decide_eq_false_iff_not, decide_eq_false_iff_not, Char.le_def,
          Char.le_def, UInt32.le_iff_toNat_le, UInt32.le_iff_toNat_le]
        exact not_and_or.mp hnot
      simp [octalDigit?, hfalse] at h
    obtain ⟨hlow, hhigh⟩ := hrange
    rw [← Char.ofNat_toNat c]
    interval_cases c.toNat <;> decide
  · intro h
    have hall : ("01234567".toList.all fun c => (octalDigit? c).isSome) = true := by decide
    exact List.all_eq_true.mp hall c h

lemma isSome_octal?_iff : (octal? mode).isSome = true ↔ IsOctal mode := by
  simp only [octal?, IsOctal]
  split
  · rename_i h
    simp only [Option.isSome_none, Bool.false_eq_true, false_iff, not_and]
    intro hne hlength
    simp [hne, Nat.not_lt.mpr hlength] at h
  · rename_i h
    rw [Option.isSome_map, isSome_mapM_iff]
    simp only [Bool.or_eq_true, List.isEmpty_iff, decide_eq_true_eq, not_or, Nat.not_lt] at h
    simp [h.1, h.2, isSome_octalDigit?_iff]

lemma isSome_literal?_iff : (literal? mode).isSome = true ↔ IsLiteral mode := by
  have hlength : "rwxrwxrwx".toList.length = 9 := rfl
  rw [IsLiteral, List.forall₂_iff_zip, hlength]
  simp only [literal?]
  split
  · rename_i h
    simpa [List.all_eq_true] using h
  · rename_i h
    simpa [List.all_eq_true] using h

/-! ## Clauses -/

lemma isSome_right?_iff : (right? c).isSome = true ↔ c ∈ "rwx".toList := by
  unfold right?
  split <;> simp_all

lemma isSome_sign?_iff : (sign? c).isSome = true ↔ c ∈ "+-=".toList := by
  unfold sign?
  split <;> simp_all

lemma isSome_class?_iff : (class? c).isSome = true ↔ c ∈ "ugo".toList := by
  unfold class?
  split <;> simp_all

/-- The letters before a sign are read if they name classes, and also if there is an `a`. -/
lemma isSome_classes?_iff :
    (classes? whom).isSome = true ↔ NamesClasses whom ∨ 'a' ∈ whom := by
  simp only [classes?, Bool.or_eq_true, List.isEmpty_iff, List.contains_iff_mem]
  split
  · rename_i h
    rcases h with rfl | hall
    · simp [NamesClasses]
    · simp [hall]
  · rename_i h
    obtain ⟨-, hall⟩ := not_or.mp h
    rw [isSome_mapM_iff, or_iff_left hall]
    refine forall₂_congr fun c hc => ?_
    have hne : c ≠ 'a' := fun heq => hall (heq ▸ hc)
    simp [isSome_class?_iff, hne]

lemma IsTakenForClasses.separate (h : IsTakenForClasses whom) :
    ∀ c ∈ whom, c ∉ ",+-=".toList := by
  rcases h with hnames | hhides
  · have hapart : List.Disjoint "ugoa".toList ",+-=".toList := by simp
    exact fun c hc => hapart (hnames c hc)
  · exact hhides.separate

/-- A clause has no comma in it. -/
lemma IsClause.comma_not_mem (h : IsClause IsTakenForClasses clause) : ',' ∉ clause := by
  obtain ⟨whom, sign, rights, rfl, hwhom, hsign, hrights⟩ := h
  rw [List.mem_append, List.mem_cons, not_or, not_or]
  refine ⟨fun hmem => hwhom.separate ',' hmem (by decide), ?_, fun hmem => ?_⟩
  · rintro rfl
    exact absurd hsign (by decide)
  · exact absurd (hrights _ hmem) (by decide)

/-- A clause is cut at its first sign, and there is none before the one that it is written with. -/
lemma cut_clause {sign : Char} (rights : List Char) (hwhom : IsTakenForClasses whom)
    (hsign : sign ∈ "+-=".toList) :
    (whom ++ sign :: rights).takeWhile (fun c => (sign? c).isNone) = whom
      ∧ (whom ++ sign :: rights).dropWhile (fun c => (sign? c).isNone) = sign :: rights := by
  have hbefore : ∀ c ∈ whom, (sign? c).isNone = true := by
    intro c hc
    rw [← Option.not_isSome, Bool.not_eq_true', ← Bool.not_eq_true, isSome_sign?_iff]
    exact fun hc' => hwhom.separate c hc (List.mem_cons_of_mem ',' hc')
  have hat : (sign? sign).isNone = false := by
    rw [← Option.not_isSome, Bool.not_eq_false', isSome_sign?_iff]
    exact hsign
  rw [List.takeWhile_append_of_pos hbefore, List.dropWhile_append_of_pos hbefore]
  simp [hat]

/-- A clause that has no comma in it is read exactly if it is one, but for stray letters. -/
lemma isSome_clause?_iff (hcomma : ',' ∉ clause) :
    (clause? clause).isSome = true ↔ IsClause IsTakenForClasses clause := by
  constructor
  · intro h
    have hparts := List.takeWhile_append_dropWhile (p := fun c => (sign? c).isNone) (l := clause)
    have hbefore : ∀ c ∈ clause.takeWhile (fun c => (sign? c).isNone), c ∉ ",+-=".toList := by
      intro c hc hsep
      rcases List.mem_cons.mp hsep with rfl | hsign
      · exact hcomma ((List.takeWhile_prefix _).subset hc)
      · have hnone := List.mem_takeWhile_imp hc
        rw [← Option.not_isSome, isSome_sign?_iff.mpr hsign] at hnone
        exact Bool.noConfusion hnone
    simp only [clause?] at h
    split at h
    · simp at h
    · rename_i sign letters hdrop
      obtain ⟨read, hread⟩ := Option.isSome_iff_exists.mp h
      simp only [Option.bind_eq_bind, Option.bind_eq_some_iff] at hread
      obtain ⟨found, hfound, rights, hrights, classes, hclasses, -⟩ := hread
      rw [hdrop] at hparts
      refine ⟨_, sign, letters, hparts.symm, ?_, isSome_sign?_iff.mp (by simp [hfound]),
        fun c hc => ?_⟩
      · by_cases hnames : NamesClasses (clause.takeWhile fun c => (sign? c).isNone)
        · exact Or.inl hnames
        · refine Or.inr ⟨?_, by simpa [NamesClasses] using hnames, hbefore⟩
          exact (isSome_classes?_iff.mp (by simp [hclasses])).resolve_left hnames
      · exact isSome_right?_iff.mp (isSome_mapM_iff.mp (by simp [hrights]) c hc)
  · rintro ⟨whom, sign, rights, rfl, hwhom, hsign, hrights⟩
    obtain ⟨htake, hdrop⟩ := cut_clause rights hwhom hsign
    obtain ⟨read, hread⟩ := Option.isSome_iff_exists.mp (isSome_sign?_iff.mpr hsign)
    obtain ⟨named, hnamed⟩ := Option.isSome_iff_exists.mp
      (isSome_mapM_iff.mpr fun c hc => isSome_right?_iff.mpr (hrights c hc))
    obtain ⟨classes, hclasses⟩ := Option.isSome_iff_exists.mp
      (isSome_classes?_iff.mpr (hwhom.imp_right HidesStray.all))
    simp only [clause?, htake, hdrop]
    simp [hread, hnamed, hclasses]

lemma isSome_symbolic?_iff :
    (symbolic? mode).isSome = true ↔ IsSymbolic IsTakenForClasses mode := by
  rw [symbolic?, Option.isSome_map, isSome_mapM_iff]
  constructor
  · intro h
    exact ⟨pieces ',' mode, pieces_ne_nil ',' mode, (intercalate_pieces ',' mode).symm,
      fun clause hclause => (isSome_clause?_iff (not_mem_of_mem_pieces clause hclause)).mp
        (h clause hclause)⟩
  · rintro ⟨clauses, hne, rfl, hclauses⟩
    rw [pieces_intercalate hne fun clause hclause => (hclauses clause hclause).comma_not_mem]
    exact fun clause hclause =>
      (isSome_clause?_iff (hclauses clause hclause).comma_not_mem).mpr (hclauses clause hclause)

/-! ## Modes -/

lemma IsSymbolic.mono {Concerns Others : List Char → Prop}
    (hmono : ∀ whom, Concerns whom → Others whom) (h : IsSymbolic Concerns mode) :
    IsSymbolic Others mode := by
  obtain ⟨clauses, hne, hmode, hclauses⟩ := h
  refine ⟨clauses, hne, hmode, fun clause hclause => ?_⟩
  obtain ⟨whom, sign, rights, hparts, hwhom, hrest⟩ := hclauses clause hclause
  exact ⟨whom, sign, rights, hparts, hmono whom hwhom, hrest⟩

lemma isSome_parse?_iff {mode : String} :
    (parse? mode).isSome = true ↔ InGrammar mode ∨ IsSymbolic IsTakenForClasses mode.toList := by
  have hread : (parse? mode).isSome = true ↔ IsOctal mode.toList ∨ IsLiteral mode.toList
      ∨ IsSymbolic IsTakenForClasses mode.toList := by
    rw [← isSome_octal?_iff, ← isSome_literal?_iff, ← isSome_symbolic?_iff]
    simp [parse?, Option.isSome_or]
  rw [hread]
  constructor
  · rintro (hoctal | hliteral | hsymbolic)
    · exact Or.inl (Or.inl hoctal)
    · exact Or.inl (Or.inr (Or.inl hliteral))
    · exact Or.inr hsymbolic
  · rintro ((hoctal | hliteral | hsymbolic) | hsymbolic)
    · exact Or.inl hoctal
    · exact Or.inr (Or.inl hliteral)
    · exact Or.inr (Or.inr (hsymbolic.mono fun _ => Or.inl))
    · exact Or.inr (Or.inr hsymbolic)

/-- **What is accepted as a mode**, whatever it is applied to: the modes of the grammar, and besides
these only lists of clauses of which some hide stray letters behind an `a`. -/
theorem accepted_iff (current : String) (isDirectory : Bool) (mode : String) :
    (changedPermissions? current isDirectory mode).isSome = true
      ↔ InGrammar mode ∨ IsSymbolic IsTakenForClasses mode.toList := by
  rw [changedPermissions?, Option.isSome_map, isSome_parse?_iff]

/-- The characters of symbolic modes as they should be. -/
lemma IsSymbolic.mem (h : IsSymbolic NamesClasses mode) (hc : c ∈ mode) :
    c ∈ ",+-=ugoarwx".toList := by
  obtain ⟨clauses, -, rfl, hclauses⟩ := h
  rcases mem_of_mem_intercalate hc with hcomma | ⟨clause, hclause, hmem⟩
  · rw [List.mem_singleton.mp hcomma]
    decide
  · obtain ⟨whom, sign, rights, rfl, hwhom, hsign, hrights⟩ := hclauses clause hclause
    rcases List.mem_append.mp hmem with hmem | hmem
    · have hclasses : "ugoa".toList ⊆ ",+-=ugoarwx".toList := by decide
      exact hclasses (hwhom c hmem)
    · rcases List.mem_cons.mp hmem with rfl | hmem
      · have hsigns : "+-=".toList ⊆ ",+-=ugoarwx".toList := by decide
        exact hsigns hsign
      · have hletters : "rwx".toList ⊆ ",+-=ugoarwx".toList := by decide
        exact hletters (hrights c hmem)

/-- Without its letters `a` this would be refused: `b` and `n` name no class. -/
theorem stray_letters_accepted :
    changedPermissions? "drwxr-xr-x" true "banana+w" = some "drwxrwxrwx"
      ∧ ¬ InGrammar "banana+w" := by
  refine ⟨by decide +kernel, ?_⟩
  rintro (⟨-, hlength, -⟩ | hliteral | hsymbolic)
  · exact absurd hlength (by decide)
  · exact absurd hliteral.length_eq (by decide)
  · exact absurd (hsymbolic.mem (c := 'b') (by decide)) (by decide)

end VirtualShell.Mode
