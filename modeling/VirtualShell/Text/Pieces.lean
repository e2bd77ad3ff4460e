/-!
# Cutting texts into pieces

A command line, a path, a file and a list of modes are all texts with a separator, and nearly every
command begins by cutting one of them up.  The functions here do that on lists of characters, where
they are short recursions with one equation per case, so that a statement about a path or a line is
proved by following the text.

* `pieces` — the text between occurrences of one character; `n` separators make `n + 1` pieces.
* `after?` and `cutAt?` — the rest behind a given beginning, and the two sides of the first
  occurrence of a needle.
* `lines` — the lines of a file, which end in a line feed or in a carriage return and a line feed.
* `replaceAll` — every occurrence of a needle exchanged, from left to right and without overlap.
-/

namespace VirtualShell.Text

/-! ## Separators -/

/-- Puts one more character in front of the first piece. -/
def consFirst (c : Char) : List (List Char) → List (List Char)
  | [] => [[c]]
  | piece :: rest => (c :: piece) :: rest

/-- The pieces of a text between the occurrences of a separator.  There is always at least one,
and a text without the separator is its own only piece. -/
def pieces (sep : Char) (text : List Char) : List (List Char) :=
  text.foldr (fun c rest => if c = sep then [] :: rest else consFirst c rest) [[]]

/-- The pieces put back together, with a glue between each two neighbours. -/
def glue (sep : List Char) (parts : List (List Char)) : List Char :=
  (parts.intersperse sep).flatten

@[simp] theorem pieces_nil (sep : Char) : pieces sep [] = [[]] := rfl

theorem pieces_cons_sep (sep : Char) (text : List Char) :
    pieces sep (sep :: text) = [] :: pieces sep text := by
  simp [pieces]

theorem pieces_cons_of_ne {sep c : Char} (h : c ≠ sep) (text : List Char) :
    pieces sep (c :: text) = consFirst c (pieces sep text) := by
  simp [pieces, h]

/-- `pieces` on strings. -/
def splitString (sep : Char) (text : String) : List String :=
  (pieces sep text.toList).map String.ofList

/-! ## Needles -/

/-- What remains of a text behind a given beginning, if it does begin so. -/
def after? : List Char → List Char → Option (List Char)
  | [], text => some text
  | _ :: _, [] => none
  | b :: bs, c :: cs => if b = c then after? bs cs else none

theorem after?_eq_some_iff {beginning text rest : List Char} :
    after? beginning text = some rest ↔ text = beginning ++ rest := by
  induction beginning generalizing text with
  | nil => simp [after?]
  | cons b bs ih =>
      cases text with
      | nil => simp [after?]
      | cons c cs =>
          by_cases hbc : b = c
          · subst hbc
            simp [after?, ih]
          · simp [after?, hbc, Ne.symm hbc]

/-- `after?` on strings. -/
def stripStart? (beginning text : String) : Option String :=
  (after? beginning.toList text.toList).map String.ofList

/-- What remains of a text before a given ending, if it does end so. -/
def stripEnd? (ending text : String) : Option String :=
  (after? ending.toList.reverse text.toList.reverse).map fun rest => String.ofList rest.reverse

/-- Whether a text begins with another. -/
def startsWith (beginning text : String) : Bool := (after? beginning.toList text.toList).isSome

/-- Whether a text ends with another. -/
def endsWith (ending text : String) : Bool :=
  (after? ending.toList.reverse text.toList.reverse).isSome

/-- The text before and behind the first occurrence of a needle. -/
def cutAt? (needle : List Char) : List Char → Option (List Char × List Char)
  | [] => if needle.isEmpty then some ([], []) else none
  | c :: cs =>
    match after? needle (c :: cs) with
    | some rest => some ([], rest)
    | none => (cutAt? needle cs).map fun sides => (c :: sides.1, sides.2)

/-- A text is its two sides with the needle between them. -/
theorem cutAt?_eq_some {needle text left right : List Char}
    (h : cutAt? needle text = some (left, right)) : text = left ++ (needle ++ right) := by
  induction text generalizing left with
  | nil =>
      simp only [cutAt?, Option.ite_none_right_eq_some, List.isEmpty_iff, Option.some_inj,
        Prod.mk.injEq] at h
      obtain ⟨rfl, rfl, rfl⟩ := h
      rfl
  | cons d rest ih =>
      simp only [cutAt?] at h
      cases hafter : after? needle (d :: rest) with
      | some behind =>
          simp only [hafter, Option.some_inj, Prod.mk.injEq] at h
          obtain ⟨rfl, rfl⟩ := h
          simpa using after?_eq_some_iff.mp hafter
      | none =>
          simp only [hafter] at h
          obtain ⟨⟨l, r⟩, hcut, hsides⟩ := Option.map_eq_some_iff.mp h
          obtain ⟨rfl, rfl⟩ := Prod.mk.inj hsides
          rw [List.cons_append, ← ih hcut]

/-- Whether a needle occurs in a text. -/
def occursIn (needle : List Char) : List Char → Bool
  | [] => needle.isEmpty
  | c :: cs => (after? needle (c :: cs)).isSome || occursIn needle cs

/-- `occursIn` on strings. -/
def contains (text needle : String) : Bool := occursIn needle.toList text.toList

/-- The two sides of the first occurrence of a needle, on strings. -/
def splitAt? (needle text : String) : Option (String × String) :=
  (cutAt? needle.toList text.toList).map fun sides =>
    (String.ofList sides.1, String.ofList sides.2)

/-- The two sides of the last occurrence of a character. -/
def cutAtLast? (c : Char) (text : List Char) : Option (List Char × List Char) :=
  match text.reverse.dropWhile (· ≠ c) with
  | [] => none
  | _ :: before => some (before.reverse, (text.reverse.takeWhile (· ≠ c)).reverse)

/-! ## Trimming -/

/-- A text without the characters of one kind at its two ends. -/
def trimBoth (drop : Char → Bool) (text : List Char) : List Char :=
  (((text.dropWhile drop).reverse).dropWhile drop).reverse

/-- `trimBoth` on strings. -/
def trimMatches (drop : Char → Bool) (text : String) : String :=
  String.ofList (trimBoth drop text.toList)

/-- A text without the characters of one kind at its end. -/
def trimEndMatches (drop : Char → Bool) (text : String) : String :=
  String.ofList ((text.toList.reverse.dropWhile drop).reverse)

/-- A text without the characters of one kind at its beginning. -/
def trimStartMatches (drop : Char → Bool) (text : String) : String :=
  String.ofList (text.toList.dropWhile drop)

/-! ## Lines -/

/-- A line without the carriage return at its end. -/
def dropReturn (line : List Char) : List Char :=
  if line.getLast? = some '\r' then line.dropLast else line

/-- The lines of a text.  Each line but perhaps the last is ended by a line feed, before which one
carriage return is dropped too; an empty rest behind the last line feed is no line. -/
def lines (text : List Char) : List (List Char) :=
  let parts := pieces '\n' text
  let ended := parts.dropLast.map dropReturn
  match parts.getLast? with
  | none => ended
  | some last => if last.isEmpty then ended else ended ++ [last]

/-- `lines` on strings. -/
def linesOf (text : String) : List String := (lines text.toList).map String.ofList

/-- The text whose lines are the given ones, each ended by a line feed. -/
def unlines (lines : List String) : String := String.join (lines.map (· ++ "\n"))

/-! ## Replacing -/

/-- Replaces every occurrence of a non-empty needle, from left to right; `skip` characters belong
to an occurrence that has been replaced already. -/
def replaceFrom (needle new : List Char) : Nat → List Char → List Char
  | _, [] => []
  | skip + 1, _ :: cs => replaceFrom needle new skip cs
  | 0, c :: cs =>
    if (after? needle (c :: cs)).isSome then
      new ++ replaceFrom needle new (needle.length - 1) cs
    else
      c :: replaceFrom needle new 0 cs

/-- Replaces every occurrence of a non-empty needle. -/
def replaceAll (needle new text : String) : String :=
  String.ofList (replaceFrom needle.toList new.toList 0 text.toList)

end VirtualShell.Text
