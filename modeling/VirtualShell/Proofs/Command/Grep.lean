import VirtualShell.Command.Grep
import VirtualShell.Proofs.Command.Echo
import VirtualShell.Proofs.Command.Find

/-!
# Lines that `grep` shows and lines that it does not

**The request.**  The words behind `grep` are groups of letters and operands, in any order
(`splitFlags_of_allowed`).

**The answer.**  A pattern stands in a line or it does not (`Occurs`), so the lines of a text are
divided in two, and `-v` exchanges the two parts.  Each keeps the numbers that its lines have in the
text, and merging the two by these numbers gives the text again (`Parted`).  How the lines of a part
are written, with their numbers, without them or only counted, does not change which they are.
-/

namespace VirtualShell

/-- No line holds a line feed. -/
lemma Text.unbroken_linesOf {text line : String} (h : line ∈ linesOf text) :
    '\n' ∉ line.toList := by
  obtain ⟨chars, hchars, rfl⟩ := List.mem_map.mp h
  rw [String.toList_ofList]
  have hpiece : ∀ piece ∈ pieces '\n' text.toList, '\n' ∉ piece :=
    not_mem_of_mem_pieces
  have hended : ∀ piece ∈ (pieces '\n' text.toList).dropLast, '\n' ∉ dropReturn piece := by
    intro piece hin hmem
    refine hpiece piece (List.dropLast_subset _ hin) ?_
    simp only [dropReturn] at hmem
    split at hmem
    · exact List.dropLast_subset _ hmem
    · exact hmem
  simp only [lines] at hchars
  split at hchars
  · obtain ⟨piece, hin, rfl⟩ := List.mem_map.mp hchars
    exact hended piece hin
  · rename_i last hlast
    split at hchars
    · obtain ⟨piece, hin, rfl⟩ := List.mem_map.mp hchars
      exact hended piece hin
    · rcases List.mem_append.mp hchars with hfront | hend
      · obtain ⟨piece, hin, rfl⟩ := List.mem_map.mp hfront
        exact hended piece hin
      · rw [List.mem_singleton.mp hend]
        exact hpiece last (List.mem_of_getLast? hlast)

namespace Command

variable {call : Invocation} {store : Store} {pattern file text : String} {args : List String}

/-! ## Letters and operands -/

/-- The single letters among the words behind a command. -/
def lettersOf (args : List String) : List Char := args.flatMap fun arg => (flagLetters? arg).getD []

/-- The words behind a command that are no groups of letters. -/
def operandsOf (args : List String) : List String :=
  args.filter fun arg => (flagLetters? arg).isNone

/-- The options that letters ask for. -/
def styleOf (letters : List Char) : GrepStyle :=
  ⟨letters.contains 'i', letters.contains 'v', letters.contains 'n', letters.contains 'c'⟩

/-- Words are read as their letters and operands, wherever these stand, if all letters are
allowed. -/
lemma splitFlags_of_allowed {allowed : String} (h : ∀ c ∈ lettersOf args, c ∈ allowed.toList) :
    splitFlags allowed args = .ok ⟨lettersOf args, operandsOf args⟩ := by
  induction args with
  | nil => rfl
  | cons arg rest ih =>
      rw [lettersOf, List.flatMap_cons, List.forall_mem_append] at h
      have hrest := ih h.2
      cases hletters : flagLetters? arg with
      | none =>
          simp [splitFlags, lettersOf, operandsOf, hletters, hrest, bind, Except.bind, pure,
            Except.pure]
      | some letters =>
          have hnone : letters.find? (fun c => !allowed.toList.contains c) = none := by
            rw [List.find?_eq_none]
            intro c hc
            have hallowed := h.1 c (by rwa [hletters])
            simpa using hallowed
          simp only [splitFlags, hletters, hnone, hrest]
          simp [lettersOf, operandsOf, hletters, bind, Except.bind, pure, Except.pure]

/-! ## Parts of a text -/

/-- Whether a pattern stands in a line, in lower case if cases are not told apart. -/
def Occurs (ignoreCase : Bool) (pattern line : String) : Prop :=
  if ignoreCase then (Text.lowerCase pattern).toList <:+: (Text.lowerCase line).toList
  else pattern.toList <:+: line.toList

/-- The lines of a text, each with its number, in two parts. -/
structure Parted (text : String) (found missed : List (String × Nat)) : Prop where
  found_rising : (found.map Prod.snd).Pairwise (· < ·)
  missed_rising : (missed.map Prod.snd).Pairwise (· < ·)
  apart : (found.map Prod.snd).Disjoint (missed.map Prod.snd)
  /-- Merged by their numbers, the parts are all lines from the first to the last. -/
  merged : found.merge missed (fun a b => decide (a.2 ≤ b.2)) = (Text.linesOf text).zipIdx 1
  /-- So that lines written one below the other can be told apart. -/
  unbroken : ∀ line ∈ Text.linesOf text, '\n' ∉ line.toList

/-- What a filter keeps of a rising list and what it does not, merged again. -/
lemma merge_filter_not {α : Type} (key : α → Nat) (keep : α → Bool) {items : List α}
    (h : (items.map key).Pairwise (· < ·)) :
    (items.filter keep).merge (items.filter fun item => !keep item)
      (fun a b => decide (key a ≤ key b)) = items := by
  induction items with
  | nil => exact List.nil_merge []
  | cons first rest ih =>
      rw [List.map_cons, List.pairwise_cons] at h
      have hmerged := ih h.2
      have hless : ∀ item ∈ rest, key first < key item :=
        fun item hitem => h.1 _ (List.mem_map_of_mem hitem)
      -- the first of all is the first of its part, and smaller than all of the other
      cases hkeep : keep first with
      | true =>
          rw [List.filter_cons_of_pos hkeep, List.filter_cons_of_neg (by simp [hkeep])]
          cases hother : rest.filter fun item => !keep item with
          | nil =>
              rw [hother, List.merge_right] at hmerged
              rw [List.merge_right, hmerged]
          | cons next more =>
              have hnext : next ∈ rest := List.mem_of_mem_filter (hother ▸ List.mem_cons_self)
              rw [List.cons_merge_cons, if_pos (decide_eq_true (hless next hnext).le), ← hother,
                hmerged]
      | false =>
          rw [List.filter_cons_of_neg (by simp [hkeep]), List.filter_cons_of_pos (by simp [hkeep])]
          cases hother : rest.filter keep with
          | nil =>
              rw [hother, List.nil_merge] at hmerged
              rw [List.nil_merge, hmerged]
          | cons next more =>
              have hnext : next ∈ rest := List.mem_of_mem_filter (hother ▸ List.mem_cons_self)
              rw [List.cons_merge_cons, if_neg (by simpa using hless next hnext), ← hother, hmerged]

/-- The numbers of lines rise. -/
lemma rising_zipIdx {α : Type} (items : List α) (start : Nat) :
    ((items.zipIdx start).map Prod.snd).Pairwise (· < ·) := by
  rw [List.zipIdx_map_snd]
  exact List.pairwise_lt_range'

lemma selects_iff {style : GrepStyle} {line : String} :
    style.selects pattern line = true
      ↔ (Occurs style.ignoreCase pattern line ↔ style.inverted = false) := by
  obtain ⟨ignoreCase, inverted, _, _⟩ := style
  cases ignoreCase <;> cases inverted <;>
    simp [GrepStyle.selects, Occurs, ← Text.contains_iff]

/-- **The lines that hold a pattern and those that do not are the two parts of a text.**  `grep`
selects the one part or, inverted, the other. -/
theorem exists_parted (ignoreCase : Bool) (pattern text : String) :
    ∃ found missed, Parted text found missed
      ∧ (∀ line ∈ found, Occurs ignoreCase pattern line.1)
      ∧ (∀ line ∈ missed, ¬ Occurs ignoreCase pattern line.1)
      ∧ ∀ style : GrepStyle, style.ignoreCase = ignoreCase →
        grepLines style pattern text = if style.inverted then missed else found := by
  obtain ⟨holds, hholds⟩ : ∃ holds : String × Nat → Bool, holds = fun line =>
    GrepStyle.selects ⟨ignoreCase, false, false, false⟩ pattern line.1 := ⟨_, rfl⟩
  have hoccurs : ∀ line, holds line = true ↔ Occurs ignoreCase pattern line.1 := by
    intro line
    simp [hholds, selects_iff]
  obtain ⟨numbered, hnumbered⟩ : ∃ numbered, numbered = (Text.linesOf text).zipIdx 1 := ⟨_, rfl⟩
  have hrising : (numbered.map Prod.snd).Pairwise (· < ·) := hnumbered ▸ rising_zipIdx _ _
  refine ⟨numbered.filter holds, numbered.filter fun line => !holds line, ⟨?_, ?_, ?_, ?_, ?_⟩,
    ?_, ?_, ?_⟩
  · exact hrising.sublist (List.filter_sublist.map _)
  · exact hrising.sublist (List.filter_sublist.map _)
  · rw [List.disjoint_left]
    intro number hfound hmissed
    obtain ⟨line, hline, rfl⟩ := List.mem_map.mp hfound
    obtain ⟨other, hother, hsame⟩ := List.mem_map.mp hmissed
    obtain ⟨hin, hholding⟩ := List.mem_filter.mp hline
    obtain ⟨hotherin, hnot⟩ := List.mem_filter.mp hother
    have hnodup : (numbered.map Prod.snd).Nodup := hrising.imp Nat.ne_of_lt
    rw [List.inj_on_of_nodup_map hnodup hotherin hin hsame, hholding] at hnot
    exact Bool.noConfusion hnot
  · rw [merge_filter_not Prod.snd holds hrising, hnumbered]
  · exact fun line => Text.unbroken_linesOf
  · exact fun line hline => (hoccurs line).mp (List.mem_filter.mp hline).2
  · intro line hline hin
    have hnot := (List.mem_filter.mp hline).2
    rw [(hoccurs line).mpr hin] at hnot
    exact Bool.noConfusion hnot
  · rintro ⟨_, inverted, withNumbers, counted⟩ rfl
    rw [grepLines, ← hnumbered]
    cases inverted <;> simp [hholds, GrepStyle.selects]

/-! ## Showing -/

/-- Lines as `grep` writes them: with their numbers, without them, or only how many they are. -/
def shownLines (numbered counted : Bool) (lines : List (String × Nat)) : String :=
  if counted then toString lines.length
  else
    "\n".intercalate
      (lines.map fun line => if numbered then toString line.2 ++ ":" ++ line.1 else line.1)

lemma intercalate_grepOutput (style : GrepStyle) (lines : List (String × Nat)) :
    "\n".intercalate (grepOutput style "" lines)
      = shownLines style.numbered style.counted lines := by
  cases hcounted : style.counted with
  | true => simp [grepOutput, shownLines, hcounted]
  | false => cases hnumbered : style.numbered <;> simp [grepOutput, shownLines, hcounted, hnumbered]

/-- What `grep` shows of one file. -/
theorem run_grep (draws : Draws)
    (hletters : ∀ letter ∈ lettersOf call.args, letter ∈ ['i', 'v', 'n', 'c'])
    (hoperands : operandsOf call.args = [pattern, file])
    (htext : fileText? store (call.resolve (withoutQuotes file)) = some text) :
    grep.run call store draws
      = ⟨.ok (shownLines (styleOf (lettersOf call.args)).numbered
            (styleOf (lettersOf call.args)).counted
            (grepLines (styleOf (lettersOf call.args)) (withoutQuotes pattern) text)),
        call.session, store, draws, []⟩ := by
  obtain ⟨node, hget, hbody⟩ := fileText?_eq_some_iff.mp htext
  have hshown : node.text = text := by simp [Node.text, hbody, Body.content?]
  have hisfile : node.isDirectory = false := by
    simp [Node.isDirectory, Node.kind, hbody, Body.kind]
  have hflags : flagsOr call "ivnc" = .ok ⟨lettersOf call.args, [pattern, file]⟩ := by
    rw [flagsOr, splitFlags_of_allowed hletters, hoperands]
  have hfiles : ∀ style,
      grepFiles call store style (withoutQuotes pattern) false [withoutQuotes file]
        = .ok (grepOutput style "" (grepLines style (withoutQuotes pattern) text)) := by
    intro style
    simp [grepFiles, hget, hisfile, hshown, bind, Except.bind, pure, Except.pure]
  simp only [grep, run, hflags, bind, Except.bind, pure, Except.pure, List.map_cons, List.map_nil,
    List.isEmpty_nil, Bool.not_true, hfiles, intercalate_grepOutput, Verdict.ofExcept, styleOf]

end Command

end VirtualShell
