import Mathlib.Data.List.Forall2
import Mathlib.Data.List.Infix
import Mathlib.Data.List.Sort
import VirtualShell.Command.Script
import VirtualShell.Proofs.Log.Credentials

/-!
# What a source prints

An interpreter searches a source for the calls of one function: it finds the first, looks at its
argument, and searches on behind the parenthesis.  What the source prints can be said without a
search.  A call stands at a position or it does not (`CallAt`), and its argument quotes at most one
text (`Quotes`), so the positions whose calls print something are a set, and the texts are theirs
from left to right (`Collects`).

**No call is passed over.**  The search leaves out the positions inside the beginning of a call that
it has found.  No other call begins there, because the name of a function holds no parenthesis and
so none but the last character of a beginning is one (`callAt_opening`).

**Nothing else is found.**  What is left behind the parenthesis is searched like a source of its
own, so the positions in it are those of the source, counted from there (`prints_append`).
-/

namespace VirtualShell

open Text

/-- A text is divided in one way only at the first occurrence of a character. -/
lemma Text.eq_of_first_occurrence {c : Char} {before after other behind : List Char}
    (hbefore : c ∉ before) (hother : c ∉ other)
    (h : before ++ c :: after = other ++ c :: behind) : before = other ∧ after = behind := by
  have hcut : cutAt? [c] (before ++ c :: after) = some (before, after) :=
    cutAt?_append after hbefore
  have hcut' : cutAt? [c] (other ++ c :: behind) = some (other, behind) :=
    cutAt?_append behind hother
  rw [h, hcut', Option.some_inj, Prod.mk.injEq] at hcut
  exact ⟨hcut.1.symm, hcut.2.symm⟩

namespace Command

variable {function source argument left skipped rest text : List Char} {i : Nat}
  {positions front : List Nat} {texts shown : List (List Char)}

/-! ## Calls and quoted texts -/

/-- The characters that a literal may begin and end with. -/
def quotationMarks : List Char := ['"', '\'', '\x60']

/-- At a position of a source the function is called; the argument is all that follows the
parenthesis. -/
def CallAt (function source : List Char) (i : Nat) (argument : List Char) : Prop :=
  source.drop i = function ++ '(' :: argument

/-- The first character of an argument that is not blank is a quotation mark, and the text stands
between the first two occurrences of this mark. -/
def Quotes (argument text : List Char) : Prop :=
  ∃ mark ∈ quotationMarks, argument.find? (fun c => !isBlank c) = some mark
    ∧ ∃ before after, argument = before ++ mark :: (text ++ mark :: after)
      ∧ mark ∉ before ∧ mark ∉ text

/-- At a position of a source there is a call that prints a text. -/
def Prints (function source : List Char) (i : Nat) (text : List Char) : Prop :=
  ∃ argument, CallAt function source i argument ∧ Quotes argument text

/-- The texts that the calls of a function print, from left to right, with the positions of these
calls. -/
structure Collects (function source : List Char) (positions : List Nat)
    (texts : List (List Char)) : Prop where
  rising : positions.Pairwise (· < ·)
  mem_iff : ∀ i, i ∈ positions ↔ ∃ text, Prints function source i text
  shown : List.Forall₂ (Prints function source) positions texts

/-! ## Literals -/

lemma isBlank_of_mem_quotationMarks {mark : Char} (h : mark ∈ quotationMarks) :
    isBlank mark = false := by
  simp only [quotationMarks, List.mem_cons, List.not_mem_nil, or_false] at h
  rcases h with rfl | rfl | rfl <;> rfl

lemma not_mem_of_blank {blanks : List Char} {mark : Char} (hmark : mark ∈ quotationMarks)
    (hblanks : ∀ c ∈ blanks, isBlank c = true) : mark ∉ blanks := by
  intro hmem
  have hblank := hblanks mark hmem
  rw [isBlank_of_mem_quotationMarks hmark] at hblank
  exact Bool.false_ne_true hblank

/-- A literal is cut out behind the blanks and a quotation mark. -/
lemma literal?_append {blanks : List Char} {mark : Char} (behind : List Char)
    (hblanks : ∀ c ∈ blanks, isBlank c = true) (hmark : mark ∈ quotationMarks) :
    literal? (blanks ++ mark :: behind) = (cutAt? [mark] behind).map Prod.fst := by
  have hdrop : (blanks ++ mark :: behind).dropWhile isBlank = mark :: behind := by
    rw [List.dropWhile_append_of_pos hblanks, List.dropWhile_cons_of_neg]
    simp [isBlank_of_mem_quotationMarks hmark]
  simp only [literal?, hdrop]
  refine if_pos ?_
  simpa [quotationMarks, or_assoc] using hmark

/-- Only where a quotation mark stands behind the blanks is there a literal. -/
lemma exists_mark_of_literal? (h : literal? argument = some text) :
    ∃ blanks mark behind, argument = blanks ++ mark :: behind
      ∧ (∀ c ∈ blanks, isBlank c = true) ∧ mark ∈ quotationMarks := by
  simp only [literal?] at h
  cases hdrop : argument.dropWhile isBlank with
  | nil => simp [hdrop] at h
  | cons mark behind =>
      simp only [hdrop, Option.ite_none_right_eq_some] at h
      refine ⟨argument.takeWhile isBlank, mark, behind, ?_, fun c hc => List.mem_takeWhile_imp hc,
        ?_⟩
      · rw [← hdrop, List.takeWhile_append_dropWhile]
      · simpa [quotationMarks, or_assoc] using h.1

/-- A literal is read exactly where a text is quoted. -/
lemma literal?_eq_some_iff : literal? argument = some text ↔ Quotes argument text := by
  constructor
  · intro h
    obtain ⟨blanks, mark, behind, rfl, hblanks, hmark⟩ := exists_mark_of_literal? h
    rw [literal?_append behind hblanks hmark, Option.map_eq_some_iff] at h
    obtain ⟨⟨inner, after⟩, hcut, rfl⟩ := h
    have hfirst : (blanks ++ mark :: behind).find? (fun c => !isBlank c) = some mark :=
      List.find?_eq_some_iff_append.mpr
        ⟨by simp [isBlank_of_mem_quotationMarks hmark], blanks, behind, rfl,
          by simpa using hblanks⟩
    refine ⟨mark, hmark, hfirst, blanks, after, ?_, not_mem_of_blank hmark hblanks, ?_⟩
    · rw [cutAt?_eq_some hcut]
      rfl
    · have hnone := not_infix_of_cutAt? (List.cons_ne_nil mark []) hcut
      rwa [List.dropLast_singleton, List.append_nil, List.singleton_infix_iff] at hnone
  · rintro ⟨mark, hmark, hfirst, before, after, hargument, hbefore, htext⟩
    obtain ⟨-, blanks, behind, hwhole, hblanks⟩ := List.find?_eq_some_iff_append.mp hfirst
    have hblanks : ∀ c ∈ blanks, isBlank c = true := by simpa using hblanks
    have hcut : cutAt? [mark] (text ++ mark :: after) = some (text, after) :=
      cutAt?_append after htext
    rw [hwhole] at hargument ⊢
    obtain ⟨-, rfl⟩ := eq_of_first_occurrence (not_mem_of_blank hmark hblanks) hbefore hargument
    rw [literal?_append _ hblanks hmark, hcut]
    rfl

/-! ## Positions -/

lemma opening_append (function argument : List Char) :
    opening function ++ argument = function ++ '(' :: argument := by
  simp [opening]

lemma callAt_append :
    CallAt function (skipped ++ rest) (skipped.length + i) argument
      ↔ CallAt function rest i argument := by
  rw [CallAt, CallAt, List.drop_length_add_append]

lemma prints_append :
    Prints function (skipped ++ rest) (skipped.length + i) text ↔ Prints function rest i text :=
  exists_congr fun _ => and_congr_left fun _ => callAt_append

/-- Inside the beginning of a call no other call begins. -/
lemma callAt_opening {other : List Char} (h : '(' ∉ function)
    (hi : i < (opening function).length)
    (hcall : CallAt function (opening function ++ argument) i other) :
    i = 0 ∧ other = argument := by
  have hle : i ≤ function.length := by
    rw [opening, List.length_append, List.length_singleton] at hi
    omega
  rw [CallAt, opening_append, List.drop_append_of_le_length hle] at hcall
  obtain ⟨hsame, hargument⟩ :=
    eq_of_first_occurrence (fun hmem => h (List.mem_of_mem_drop hmem)) h hcall
  have hlength := congrArg List.length hsame
  rw [List.length_drop] at hlength
  exact ⟨by omega, hargument.symm⟩

/-- What is cut at is the first call. -/
lemma not_callAt_of_lt {other : List Char}
    (hcut : cutAt? (opening function) source = some (left, argument)) (hi : i < left.length) :
    ¬ CallAt function source i other := by
  intro hcall
  refine not_infix_of_cutAt? (List.append_ne_nil_of_right_ne_nil function (by simp)) hcut ?_
  -- a call with the text in front of it would end before the one that is cut at
  have hwhole : source = source.take i ++ (opening function ++ other) := by
    rw [opening_append, ← hcall, List.take_append_drop]
  have hbegin : source.take i ++ opening function <+: source :=
    ⟨other, by rw [List.append_assoc, ← hwhole]⟩
  have hfront : left ++ (opening function).dropLast <+: source := by
    rw [cutAt?_eq_some hcut, List.prefix_append_right_inj]
    exact (List.dropLast_prefix _).trans (List.prefix_append _ _)
  have hlength : (source.take i ++ opening function).length
      ≤ (left ++ (opening function).dropLast).length := by
    have hle := List.length_take_le i source
    rw [List.length_append, List.length_append, List.length_dropLast]
    omega
  exact (List.suffix_append _ _).isInfix.trans
    (List.prefix_of_prefix_length_le hbegin hfront hlength).isInfix

/-- No call begins in front of the first one or inside its beginning. -/
lemma callAt_iff_of_cutAt? {other : List Char} (h : '(' ∉ function)
    (hcut : cutAt? (opening function) source = some (left, argument))
    (hi : i < left.length + (opening function).length) :
    CallAt function source i other ↔ i = left.length ∧ other = argument := by
  have hsource : source = left ++ (opening function ++ argument) := cutAt?_eq_some hcut
  constructor
  · intro hcall
    have hlate : left.length ≤ i := Nat.le_of_not_lt fun hlt => not_callAt_of_lt hcut hlt hcall
    obtain ⟨k, rfl⟩ := Nat.exists_eq_add_of_le hlate
    rw [hsource, callAt_append] at hcall
    obtain ⟨rfl, hother⟩ := callAt_opening h (Nat.lt_of_add_lt_add_left hi) hcall
    exact ⟨Nat.add_zero _, hother⟩
  · rintro ⟨rfl, rfl⟩
    rw [hsource, CallAt, List.drop_left, opening_append]

/-- Up to the end of its beginning, only the first call can print a text. -/
lemma prints_iff_of_cutAt? (h : '(' ∉ function)
    (hcut : cutAt? (opening function) source = some (left, argument))
    (hi : i < left.length + (opening function).length) :
    Prints function source i text ↔ i = left.length ∧ literal? argument = some text := by
  simp only [Prints, callAt_iff_of_cutAt? h hcut hi, and_assoc, exists_and_left, exists_eq_left,
    literal?_eq_some_iff]

/-! ## The search -/

/-- What a text collects in front of a rest, and what the rest collects. -/
lemma Collects.append (hfront : front.Pairwise (· < ·))
    (hmem : ∀ i, i ∈ front ↔ i < skipped.length ∧ ∃ text, Prints function (skipped ++ rest) i text)
    (hshown : List.Forall₂ (Prints function (skipped ++ rest)) front shown)
    (h : Collects function rest positions texts) :
    Collects function (skipped ++ rest) (front ++ positions.map (skipped.length + ·))
      (shown ++ texts) where
  rising := by
    rw [List.pairwise_append, List.pairwise_map]
    refine ⟨hfront, h.rising.imp fun hlt => Nat.add_lt_add_left hlt _, fun i hi j hj => ?_⟩
    obtain ⟨k, -, rfl⟩ := List.mem_map.mp hj
    exact Nat.lt_add_right k ((hmem i).mp hi).1
  mem_iff i := by
    rw [List.mem_append, hmem, List.mem_map]
    rcases Nat.lt_or_ge i skipped.length with hlt | hge
    · have hlater : ¬ ∃ k ∈ positions, skipped.length + k = i := by
        rintro ⟨k, -, rfl⟩
        omega
      simp only [hlt, true_and, hlater, or_false]
    · obtain ⟨k, rfl⟩ := Nat.exists_eq_add_of_le hge
      simp only [prints_append, ← h.mem_iff, Nat.not_lt.mpr hge, false_and, false_or,
        Nat.add_left_cancel_iff, exists_eq_right]
  shown := by
    refine List.rel_append hshown ?_
    rw [List.forall₂_map_left_iff]
    simpa only [prints_append] using h.shown

/-- The first call puts its text, if it quotes one, in front of those that are collected behind
it. -/
lemma Collects.cons (hname : '(' ∉ function)
    (hcut : cutAt? (opening function) source = some (left, argument))
    (h : Collects function argument positions texts) :
    ∃ positions, Collects function source positions ((literal? argument).toList ++ texts) := by
  have hsource : source = left ++ opening function ++ argument := by
    rw [cutAt?_eq_some hcut, List.append_assoc]
  have hprints : ∀ i text, i < (left ++ opening function).length →
      (Prints function source i text ↔ i = left.length ∧ literal? argument = some text) :=
    fun i text hi => prints_iff_of_cutAt? hname hcut (List.length_append ▸ hi)
  have hleft : left.length < (left ++ opening function).length := by simp [opening]
  rw [hsource] at hprints ⊢
  cases hliteral : literal? argument with
  | none =>
      refine ⟨_, h.append List.Pairwise.nil (fun i => ?_) List.Forall₂.nil⟩
      constructor
      · exact fun hi => absurd hi List.not_mem_nil
      · rintro ⟨hi, text, htext⟩
        rw [hprints i text hi, hliteral] at htext
        exact absurd htext.2.symm (Option.some_ne_none text)
  | some text =>
      have hhere := (hprints left.length text hleft).mpr ⟨rfl, hliteral⟩
      refine ⟨_, h.append (List.pairwise_singleton _ left.length) (fun i => ?_)
        (List.forall₂_cons.mpr ⟨hhere, List.Forall₂.nil⟩)⟩
      rw [List.mem_singleton]
      constructor
      · rintro rfl
        exact ⟨hleft, text, hhere⟩
      · rintro ⟨hi, other, hother⟩
        exact ((hprints i other hi).mp hother).1

/-- The search collects the texts of all calls.  Each round is left with the argument of the call it
has found. -/
lemma exists_collects (h : '(' ∉ function) (source : List Char) :
    ∃ positions, Collects function source positions (literals function source) := by
  fun_induction literals function source with
  | case1 source hcut =>
      have hnone : ∀ i text, ¬ Prints function source i text := by
        rintro i text ⟨argument, hcall, -⟩
        refine (cutAt?_eq_none_iff (by simp [opening])).mp hcut ?_
        have hbegins : opening function <+: source.drop i :=
          ⟨argument, by rw [opening_append, hcall]⟩
        exact hbegins.isInfix.trans (List.drop_suffix i source).isInfix
      exact ⟨[], List.Pairwise.nil, by simpa using hnone, List.Forall₂.nil⟩
  | case2 source left argument hcut _ ih =>
      obtain ⟨positions, hcollects⟩ := ih
      exact hcollects.cons h hcut

lemma rightUnique_prints : Relator.RightUnique (Prints function source) := by
  rintro i text other ⟨argument, hcall, htext⟩ ⟨argument', hcall', hother⟩
  have hargument : argument = argument' :=
    (List.cons.inj (List.append_cancel_left (hcall.symm.trans hcall'))).2
  rw [← literal?_eq_some_iff] at htext hother
  rw [hargument, hother, Option.some_inj] at htext
  exact htext.symm

/-- What a source collects is determined. -/
lemma Collects.unique {others : List Nat} (h : Collects function source positions texts)
    (hother : Collects function source others shown) : texts = shown := by
  have hpositions : positions = others :=
    h.rising.eq_of_mem_iff hother.rising fun i => (h.mem_iff i).trans (hother.mem_iff i).symm
  subst hpositions
  exact List.right_unique_forall₂' rightUnique_prints h.shown hother.shown

/-- **A source prints the texts that its calls quote, from left to right.** -/
theorem printedBy_eq_iff {function source : String} (h : '(' ∉ function.toList)
    (texts : List String) :
    printedBy function source = texts
      ↔ ∃ positions,
          Collects function.toList source.toList positions (texts.map String.toList) := by
  have hliterals : (printedBy function source).map String.toList
      = literals function.toList source.toList := by
    simp [printedBy, Function.comp_def]
  obtain ⟨positions, hcollects⟩ := exists_collects h source.toList
  constructor
  · rintro rfl
    exact ⟨positions, hliterals ▸ hcollects⟩
  · rintro ⟨others, hother⟩
    refine List.map_injective_iff.mpr (fun _ _ => String.toList_inj.mp) ?_
    rw [hliterals]
    exact hcollects.unique hother

/-- The first argument is no literal, the second holds a call, and the last literal has no end. -/
theorem printedBy_eq_iff_of_nested :
    '(' ∉ "print".toList
      ∧ ∃ positions, Collects "print".toList
          "print(x, print( 'print(\"a\")') print(`b".toList positions
          (["print(\"a\")", "a"].map String.toList) :=
  ⟨by decide, (printedBy_eq_iff (by decide) _).mp (by decide +kernel)⟩

end Command

end VirtualShell
