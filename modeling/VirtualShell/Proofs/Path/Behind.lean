import Mathlib.Data.List.TakeWhile
import VirtualShell.Proofs.Path.Resolve
import VirtualShell.Proofs.Path.Unspaced

/-!
# Paths written behind an operand

`find` and the archives write what lies below an operand behind the operand as it was typed: without
the slashes at its end, then a slash, then the rest of the path.  The operand may be spelled in any
way, through `.` and `..`, from the home directory, or as slashes alone, of which nothing is left.

`resolve_behind`: in the same working directory the text names the path that it was written for, so
a listing can be typed in again.  A slash at its end does not change this (`resolve_append_slash`).
-/

namespace VirtualShell.Path

open Text

variable {cwd start raw path up : String}

/-! ## Slashes at the end -/

lemma foldl_walk_slashes (kept : List (List Char)) (n : Nat) :
    (pieces '/' (List.replicate n '/')).foldl walk kept = kept := by
  have hempty : walk kept [] = kept := by simp [walk]
  induction n with
  | zero => simpa using hempty
  | succ n ih => rw [List.replicate_succ, pieces_cons_sep, List.foldl_cons, hempty, ih]

/-- Slashes at the end are not read. -/
lemma normalize_append_slashes (left : String) (n : Nat) :
    normalize (left ++ String.ofList (List.replicate n '/')) = normalize left := by
  cases n with
  | zero => simp
  | succ n =>
      have hchars : (left ++ String.ofList (List.replicate (n + 1) '/')).toList
          = left.toList ++ '/' :: List.replicate n '/' := by simp [List.replicate_succ]
      rw [normalize_eq_spell, normalize_eq_spell, hchars, normalSegments_append_slash,
        foldl_walk_slashes, List.reverse_reverse]

/-- An operand as it is written in front of what lies below it. -/
def trimmed (start : String) : String := trimEndMatches (· = '/') start

lemma exists_slashes (start : String) :
    ∃ n, start = trimmed start ++ String.ofList (List.replicate n '/') := by
  have hparts := List.takeWhile_append_dropWhile (p := (· = '/')) (l := start.toList.reverse)
  have hslashes := List.eq_replicate_of_mem (a := '/')
    (l := start.toList.reverse.takeWhile (· = '/')) fun c hc => by
      simpa using List.mem_takeWhile_imp hc
  refine ⟨(start.toList.reverse.takeWhile (· = '/')).length, String.toList_inj.mp ?_⟩
  have hreverse := congrArg List.reverse hparts
  rw [List.reverse_append, hslashes, List.reverse_replicate, List.reverse_reverse] at hreverse
  rw [String.toList_append, String.toList_ofList, trimmed, trimEndMatches, String.toList_ofList]
  exact hreverse.symm

/-- A slash at the end of an argument changes nothing. -/
lemma resolve_append_slash (hraw : raw ≠ "") (cwd : String) :
    resolve cwd (raw ++ "/") = resolve cwd raw := by
  have hwhole : raw ++ "/" = raw ++ "/" ++ "" := by simp
  have hslash : absolute cwd raw ++ "/" ++ ""
      = absolute cwd raw ++ String.ofList (List.replicate 1 '/') := by simp
  rw [resolve, hwhole, absolute_append_slash hraw, hslash, normalize_append_slashes, resolve]

/-! ## What is left of an operand -/

/-- If anything is left of an operand, it names the same path. -/
lemma resolve_trimmed (h : trimmed start ≠ "") (cwd : String) :
    resolve cwd (trimmed start) = resolve cwd start := by
  obtain ⟨n, hstart⟩ := exists_slashes start
  cases n with
  | zero =>
      rw [List.replicate_zero, String.ofList_nil, String.append_empty] at hstart
      rw [← hstart]
  | succ n =>
      have hslash : String.ofList (List.replicate (n + 1) '/')
          = "/" ++ String.ofList (List.replicate n '/') :=
        String.toList_inj.mp (by simp [List.replicate_succ])
      have hwhole : absolute cwd start
          = absolute cwd (trimmed start) ++ String.ofList (List.replicate (n + 1) '/') := by
        conv_lhs => rw [hstart, hslash, ← String.append_assoc]
        rw [absolute_append_slash h, hslash, String.append_assoc]
      rw [resolve, resolve, hwhole, normalize_append_slashes]

/-- Nothing is left of an operand that is all slashes, and it names the root. -/
lemma resolve_of_trimmed_eq (h : trimmed start = "") (hstart : start ≠ "") (cwd : String) :
    resolve cwd start = "/" := by
  obtain ⟨n, hslashes⟩ := exists_slashes start
  rw [h, String.empty_append] at hslashes
  cases n with
  | zero => exact absurd (by simpa using hslashes) hstart
  | succ n =>
      have hrooted : start = "/" ++ String.ofList (List.replicate n '/') := by
        rw [hslashes]
        exact String.toList_inj.mp (by simp [List.replicate_succ])
      rw [resolve, hrooted, absolute_rooted, normalize_append_slashes]
      decide

/-- Text behind an operand is read from the path that the operand names. -/
lemma resolve_trimmed_append (hstart : start ≠ "") (cwd rest : String) :
    resolve cwd (trimmed start ++ "/" ++ rest) = normalize (resolve cwd start ++ "/" ++ rest) := by
  by_cases h : trimmed start = ""
  · rw [resolve_of_trimmed_eq h hstart, h, String.empty_append, resolve, absolute_rooted,
      normalize_slash_append]
  · rw [resolve, absolute_append_slash h]
    refine normalize_append_slash_congr ?_ rest
    rw [← resolve, resolve_trimmed h]
    exact (isNormal_resolve cwd start).symm

/-! ## What lies below -/

/-- A path below another is that and the rest. -/
lemma join_below (h : IsNormal path) (hup : IsNormal up) (hbelow : isBelow path up = true) :
    join up (below path up) = path := by
  obtain ⟨left, hleft, rfl⟩ := isNormal_iff_spell.mp h
  obtain ⟨right, hright, rfl⟩ := isNormal_iff_spell.mp hup
  obtain ⟨rest, hrest, rfl⟩ := (isBelow_spell_iff hleft hright).mp hbelow
  rw [below_spell_append hright hrest, join_spell_glue hright hrest]

lemma normalize_append_below (h : IsNormal path) (hup : IsNormal up)
    (hbelow : isBelow path up = true) : normalize (up ++ "/" ++ below path up) = path := by
  have hjoin := join_below h hup hbelow
  rw [join] at hjoin
  split at hjoin
  · rename_i hroot
    subst hroot
    rw [normalize_slash_append, hjoin]
    exact h
  · rw [hjoin]
    exact h

/-- **A path written behind an operand names itself**, however the operand was spelled. -/
theorem resolve_behind (hstart : start ≠ "") (h : IsNormal path)
    (hbelow : isBelow path (resolve cwd start) = true) :
    resolve cwd (trimmed start ++ "/" ++ below path (resolve cwd start)) = path := by
  rw [resolve_trimmed_append hstart, normalize_append_below h (isNormal_resolve _ _) hbelow]

/-- An operand with a slash behind it names what it names without. -/
lemma resolve_trimmed_slash (hstart : start ≠ "") (cwd : String) :
    resolve cwd (trimmed start ++ "/") = resolve cwd start := by
  have hslash : resolve cwd start ++ "/" ++ ""
      = resolve cwd start ++ String.ofList (List.replicate 1 '/') := by simp
  have hrest := resolve_trimmed_append hstart cwd ""
  rw [String.append_empty, hslash, normalize_append_slashes] at hrest
  exact hrest.trans (isNormal_resolve cwd start)

/-! ## Blanks and slashes -/

lemma unspaced_trimmed (hstart : Unspaced start.toList) : Unspaced (trimmed start).toList := by
  rw [trimmed, trimEndMatches, String.toList_ofList]
  exact hstart.of_subset fun _ hc => List.mem_reverse.mp
    ((List.dropWhile_suffix _).subset (List.mem_reverse.mp hc))

/-- Written behind words, paths without blanks are lines without blanks. -/
lemma unspaced_behind (hstart : Unspaced start.toList) (h : Unspaced path.toList) :
    Unspaced (trimmed start ++ "/" ++ below path up).toList := by
  simp only [String.toList_append, unspaced_append]
  exact ⟨⟨unspaced_trimmed hstart, by decide⟩, unspaced_below up h⟩

lemma getLast?_trimmed (start : String) : (trimmed start).toList.getLast? ≠ some '/' := by
  have hhead := List.head?_dropWhile_not (fun c => decide (c = '/')) start.toList.reverse
  rw [trimmed, trimEndMatches, String.toList_ofList, List.getLast?_reverse]
  intro hlast
  simp [hlast] at hhead

lemma getLast?_of_isNormal (h : IsNormal path) (hroot : path ≠ "/") :
    path.toList.getLast? ≠ some '/' := by
  rcases h.root_or_concat with rfl | ⟨segments, last, hsegments, rfl⟩
  · exact absurd rfl hroot
  · obtain ⟨hne, -, -, hslash⟩ := hsegments last (by simp)
    obtain ⟨front, c, rfl⟩ := (List.eq_nil_or_concat last).resolve_left hne
    rw [List.concat_eq_append] at hslash ⊢
    rw [toList_spell, ofSegments_concat, ← List.cons_append, ← List.append_assoc,
      List.getLast?_concat, Ne, Option.some_inj]
    rintro rfl
    exact hslash (by simp)

/-- What lies below ends as a path, with no slash. -/
lemma getLast?_behind (h : IsNormal path) (hup : IsNormal up) (hbelow : isBelow path up = true)
    (front : String) : (front ++ "/" ++ below path up).toList.getLast? ≠ some '/' := by
  have hjoin : ∃ whole, path = whole ++ "/" ++ below path up := by
    refine ⟨if up = "/" then "" else up, ?_⟩
    conv_lhs => rw [← join_below h hup hbelow, join]
    split <;> simp
  have hroot : path ≠ "/" := by
    rintro rfl
    rw [isBelow_root_left hup] at hbelow
    exact Bool.noConfusion hbelow
  obtain ⟨whole, hwhole⟩ := hjoin
  have hlast := getLast?_of_isNormal h hroot
  rw [hwhole] at hlast
  simpa [List.getLast?_append] using hlast

end VirtualShell.Path
