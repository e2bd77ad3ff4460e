import VirtualShell.Proofs.Path.Normal

/-!
# The tree that paths make

The tree of a namespace is nothing but its paths, so each step in it is an operation on segments:
`parent?` takes the last one away and `join` puts it back, `isBelow` asks for a proper beginning,
and `rebase` exchanges a beginning for another.  The first half says this on spelled paths; the
second half draws from it what is needed where a path is only known to be in normal form.

The one fact that carries the invariants of a store is `isBelow_iff_parent`: a path lies below
another exactly if its parent is that other path or lies below it.  Whatever is closed under
parents is thereby closed under all ancestors.
-/

namespace VirtualShell.Path

open Text

/-! ## Steps on spelled paths -/

lemma slashed_eq_nil_iff {segments : List (List Char)} : slashed segments = [] ↔ segments = [] := by
  cases segments <;> simp

lemma ofSegments_append (left : List (List Char)) {right : List (List Char)} (h : right ≠ []) :
    ofSegments (left ++ right) = slashed left ++ slashed right := by
  rw [ofSegments_eq_slashed (by simp [h]), slashed_append]

lemma ofSegments_concat (segments : List (List Char)) (last : List Char) :
    ofSegments (segments ++ [last]) = slashed segments ++ '/' :: last := by
  rw [ofSegments_append segments (by simp)]
  simp

lemma spell_concat_ne_root {segments : List (List Char)} {last : List Char}
    (h : AreSegments (segments ++ [last])) : spell (segments ++ [last]) ≠ "/" := by
  rw [Ne, spell_eq_root_iff h]
  simp

@[simp] lemma parent?_root : parent? "/" = none := by decide

lemma parent?_spell_concat {segments : List (List Char)} {last : List Char}
    (h : AreSegments (segments ++ [last])) :
    parent? (spell (segments ++ [last])) = some (spell segments) := by
  have hlast : '/' ∉ last := (h last (by simp)).2.2.2
  rw [parent?, if_neg (spell_concat_ne_root h), toList_spell, ofSegments_concat,
    cutAtLast?_append _ hlast]
  by_cases hnil : segments = []
  · subst hnil
    simp
  · simp [slashed_eq_nil_iff, hnil, spell, ofSegments_eq_slashed hnil]

lemma fileName_spell_concat {segments : List (List Char)} {last : List Char}
    (h : AreSegments (segments ++ [last])) :
    fileName (spell (segments ++ [last])) = String.ofList last := by
  have hlast : ∀ c ∈ last.reverse, (decide (c ≠ '/')) = true := by
    intro c hc
    have hne : c ≠ '/' := fun hslash =>
      (h last (by simp)).2.2.2 (hslash ▸ List.mem_reverse.mp hc)
    simpa using hne
  have hreverse : (slashed segments ++ '/' :: last).reverse
      = last.reverse ++ '/' :: (slashed segments).reverse := by simp
  rw [fileName, if_neg (spell_concat_ne_root h), toList_spell, ofSegments_concat, hreverse,
    List.takeWhile_append_of_pos hlast]
  simp

/-- Joining a path and the text of further segments, of which there is at least one. -/
lemma join_spell_glue {left right : List (List Char)} (hleft : AreSegments left)
    (hright : right ≠ []) :
    join (spell left) (String.ofList (glue ['/'] right)) = spell (left ++ right) := by
  have hglue : '/' :: glue ['/'] right = slashed right := by
    obtain ⟨segment, rest, rfl⟩ := List.exists_cons_of_ne_nil hright
    exact slash_glue_eq_slashed segment rest
  apply String.toList_inj.mp
  rw [toList_spell, ofSegments_append left hright, ← hglue, join]
  by_cases hnil : left = []
  · subst hnil
    simp
  · rw [if_neg fun hroot => hnil ((spell_eq_root_iff hleft).mp hroot)]
    simp [ofSegments_eq_slashed hnil]

lemma join_spell {segments : List (List Char)} (h : AreSegments segments) (name : List Char) :
    join (spell segments) (String.ofList name) = spell (segments ++ [name]) := by
  simpa [glue] using join_spell_glue h (List.cons_ne_nil name [])

/-- **Lying below is having a proper beginning.** -/
theorem isBelow_spell_iff {left right : List (List Char)} (hleft : AreSegments left)
    (hright : AreSegments right) :
    isBelow (spell left) (spell right) = true ↔ ∃ rest, rest ≠ [] ∧ left = right ++ rest := by
  by_cases hnil : right = []
  · subst hnil
    simp [isBelow, spell_eq_root_iff hleft]
  · have hroot : spell right ≠ "/" := fun h => hnil ((spell_eq_root_iff hright).mp h)
    have hafter : isBelow (spell left) (spell right) = true
        ↔ ∃ text, ofSegments left = ofSegments right ++ '/' :: text := by
      rw [isBelow, if_neg hroot]
      split
      · rename_i text heq
        have htext := after?_eq_some_iff.mp heq
        rw [toList_spell, toList_spell] at htext
        simp [htext]
      · rename_i hnone
        simp only [Bool.false_eq_true, false_iff, not_exists]
        intro text htext
        refine hnone text (after?_eq_some_iff.mpr ?_)
        rw [toList_spell, toList_spell, htext]
    rw [hafter, ofSegments_eq_slashed hnil]
    constructor
    · rintro ⟨text, htext⟩
      -- cut both sides at their slashes: the pieces of an append are the pieces of its parts
      have hpieces := congrArg (pieces '/') htext
      rw [pieces_append_sep, pieces_slashed hright] at hpieces
      by_cases hempty : left = []
      · subst hempty
        have hlength := congrArg List.length htext
        obtain ⟨segment, rest, rfl⟩ := List.exists_cons_of_ne_nil hnil
        simp [ofSegments_nil] at hlength
      · rw [ofSegments_eq_slashed hempty, pieces_slashed hleft] at hpieces
        exact ⟨pieces '/' text, pieces_ne_nil '/' text, by simpa using hpieces⟩
    · rintro ⟨rest, hrest, rfl⟩
      obtain ⟨segment, more, rfl⟩ := List.exists_cons_of_ne_nil hrest
      exact ⟨segment ++ slashed more, by rw [ofSegments_append right hrest, slashed_cons]⟩

lemma below_spell_append {up rest : List (List Char)} (hup : AreSegments up) (hrest : rest ≠ []) :
    below (spell (up ++ rest)) (spell up) = String.ofList (glue ['/'] rest) := by
  have hglue : slashed rest = '/' :: glue ['/'] rest := by
    obtain ⟨segment, more, rfl⟩ := List.exists_cons_of_ne_nil hrest
    exact (slash_glue_eq_slashed segment more).symm
  rw [below, toList_spell, toList_spell, ofSegments_append up hrest, hglue]
  by_cases hnil : up = []
  · subst hnil
    have hdrop : dropBytes 1 ('/' :: glue ['/'] rest) = glue ['/'] rest := by
      simpa [byteLength] using dropBytes_append_slash [] (glue ['/'] rest)
    simp [hdrop]
  · rw [if_neg fun hroot => hnil ((spell_eq_root_iff hup).mp hroot), ofSegments_eq_slashed hnil,
      dropBytes_append_slash]

/-- **Moving a path exchanges its beginning.** -/
theorem rebase_spell {source target : List (List Char)} (rest : List (List Char))
    (hsource : AreSegments (source ++ rest)) (htarget : AreSegments target) :
    rebase (spell (source ++ rest)) (spell source) (spell target) = spell (target ++ rest) := by
  have hup : AreSegments source := (areSegments_append.mp hsource).1
  by_cases hnil : rest = []
  · subst hnil
    simp [rebase]
  · have hne : spell (source ++ rest) ≠ spell source := by
      rw [Ne, spell_inj hsource hup]
      simp [hnil]
    rw [rebase, if_neg hne, below_spell_append hup hnil, join_spell_glue htarget hnil]

/-! ## Paths in normal form -/

variable {path up other : String}

/-- A path in normal form is the root, or a name in a directory. -/
lemma IsNormal.root_or_concat (h : IsNormal path) :
    path = "/" ∨ ∃ segments last, AreSegments (segments ++ [last])
      ∧ path = spell (segments ++ [last]) := by
  obtain ⟨all, hall, rfl⟩ := isNormal_iff_spell.mp h
  rcases List.eq_nil_or_concat all with rfl | ⟨segments, last, rfl⟩
  · exact Or.inl rfl
  · rw [List.concat_eq_append] at hall ⊢
    exact Or.inr ⟨segments, last, hall, rfl⟩

/-- Above every path but the root there is one, and its last segment leads back. -/
lemma IsNormal.exists_parent (h : IsNormal path) (hroot : path ≠ "/") :
    ∃ up, parent? path = some up ∧ IsNormal up ∧ join up (fileName path) = path := by
  rcases h.root_or_concat with rfl | ⟨segments, last, hsegments, rfl⟩
  · exact absurd rfl hroot
  · have hup : AreSegments segments := (areSegments_append.mp hsegments).1
    refine ⟨spell segments, parent?_spell_concat hsegments, isNormal_spell hup, ?_⟩
    rw [fileName_spell_concat hsegments, join_spell hup]

lemma IsNormal.of_parent? (h : IsNormal path) (hup : parent? path = some up) : IsNormal up := by
  have hroot : path ≠ "/" := by
    rintro rfl
    simp at hup
  obtain ⟨found, hfound, hnormal, -⟩ := h.exists_parent hroot
  rw [hup, Option.some_inj] at hfound
  exact hfound ▸ hnormal

/-- **Below means parent, step by step.**  A path lies below another exactly if its parent is that
path or lies below it. -/
theorem isBelow_iff_parent (h : IsNormal path) (hother : IsNormal other) :
    isBelow path other = true
      ↔ ∃ up, parent? path = some up ∧ (up = other ∨ isBelow up other = true) := by
  obtain ⟨right, hright, rfl⟩ := isNormal_iff_spell.mp hother
  rcases h.root_or_concat with rfl | ⟨segments, last, hsegments, rfl⟩
  · have hno := isBelow_spell_iff areSegments_nil hright
    rw [spell_nil] at hno
    simp [hno]
  · have hup : AreSegments segments := (areSegments_append.mp hsegments).1
    simp only [parent?_spell_concat hsegments, Option.some_inj, exists_eq_left']
    rw [isBelow_spell_iff hsegments hright, isBelow_spell_iff hup hright, spell_inj hup hright]
    constructor
    · rintro ⟨rest, hrest, heq⟩
      rcases List.eq_nil_or_concat rest with rfl | ⟨front, back, rfl⟩
      · exact absurd rfl hrest
      · rw [List.concat_eq_append, ← List.append_assoc] at heq
        have hfront : segments = right ++ front := (List.append_inj' heq rfl).1
        by_cases hnil : front = []
        · exact Or.inl (by simpa [hnil] using hfront)
        · exact Or.inr ⟨front, hnil, hfront⟩
    · rintro (rfl | ⟨rest, -, rfl⟩)
      · exact ⟨[last], by simp, rfl⟩
      · exact ⟨rest ++ [last], by simp, by simp⟩

/-- A path below another is longer. -/
lemma length_lt_of_isBelow (h : IsNormal path) (hother : IsNormal other)
    (hbelow : isBelow path other = true) : other.length < path.length := by
  obtain ⟨right, hright, rfl⟩ := isNormal_iff_spell.mp hother
  obtain ⟨left, hleft, rfl⟩ := isNormal_iff_spell.mp h
  obtain ⟨rest, hrest, rfl⟩ := (isBelow_spell_iff hleft hright).mp hbelow
  obtain ⟨segment, more, rfl⟩ := List.exists_cons_of_ne_nil hrest
  have hsegment : segment ≠ [] := (hleft segment (by simp)).1
  have hlong : 1 < (slashed (segment :: more)).length := by
    have hpositive := List.length_pos_iff.mpr hsegment
    simp only [slashed_cons, List.length_cons, List.length_append]
    omega
  rw [← String.length_toList, ← String.length_toList, toList_spell, toList_spell,
    ofSegments_append right hrest, List.length_append]
  by_cases hnil : right = []
  · subst hnil
    simpa [ofSegments_nil] using hlong
  · rw [ofSegments_eq_slashed hnil]
    omega

/-- Nothing lies below itself. -/
lemma isBelow_irrefl (h : IsNormal path) : isBelow path path = false := by
  obtain ⟨segments, hsegments, rfl⟩ := isNormal_iff_spell.mp h
  rw [Bool.eq_false_iff, Ne, isBelow_spell_iff hsegments hsegments]
  rintro ⟨rest, hrest, heq⟩
  exact hrest (by simpa using heq)

/-- Nothing has the root below it. -/
lemma isBelow_root_left (h : IsNormal path) : isBelow "/" path = false := by
  obtain ⟨segments, hsegments, rfl⟩ := isNormal_iff_spell.mp h
  rw [← spell_nil, Bool.eq_false_iff, Ne, isBelow_spell_iff areSegments_nil hsegments]
  rintro ⟨rest, hrest, heq⟩
  exact hrest (List.append_eq_nil_iff.mp heq.symm).2

/-- The path of a name in a directory. -/
lemma isNormal_join {name : String} (h : IsNormal path) (hname : IsSegment name.toList) :
    IsNormal (join path name) := by
  obtain ⟨segments, hsegments, rfl⟩ := isNormal_iff_spell.mp h
  rw [← String.ofList_toList (s := name), join_spell hsegments]
  exact isNormal_spell (areSegments_append.mpr ⟨hsegments, areSegments_singleton.mpr hname⟩)

lemma isBelow_join {name : String} (h : IsNormal path) (hname : IsSegment name.toList) :
    isBelow (join path name) path = true := by
  obtain ⟨segments, hsegments, rfl⟩ := isNormal_iff_spell.mp h
  have hall : AreSegments (segments ++ [name.toList]) :=
    areSegments_append.mpr ⟨hsegments, areSegments_singleton.mpr hname⟩
  rw [← String.ofList_toList (s := name), join_spell hsegments, isBelow_spell_iff hall hsegments]
  exact ⟨[name.toList], by simp, rfl⟩

/-- The last segment of a path other than the root can be the name of anything. -/
lemma IsNormal.isSegment_fileName (h : IsNormal path) (hroot : path ≠ "/") :
    IsSegment (fileName path).toList := by
  rcases h.root_or_concat with rfl | ⟨segments, last, hsegments, rfl⟩
  · exact absurd rfl hroot
  · rw [fileName_spell_concat hsegments, String.toList_ofList]
    exact hsegments last (by simp)

lemma isNormal_join_fileName (h : IsNormal path) (hother : IsNormal other) (hroot : other ≠ "/") :
    IsNormal (join path (fileName other)) :=
  isNormal_join h (hother.isSegment_fileName hroot)

/-! ## Moving -/

variable {source target : String}

/-- The paths that move when `source` does, with what they have behind it. -/
lemma eq_or_isBelow_iff {segments : List (List Char)} (h : IsNormal path)
    (hsegments : AreSegments segments) :
    (path = spell segments ∨ isBelow path (spell segments) = true)
      ↔ ∃ rest, AreSegments (segments ++ rest) ∧ path = spell (segments ++ rest) := by
  obtain ⟨all, hall, rfl⟩ := isNormal_iff_spell.mp h
  rw [spell_inj hall hsegments, isBelow_spell_iff hall hsegments]
  constructor
  · rintro (rfl | ⟨rest, -, rfl⟩)
    · exact ⟨[], by simpa using hsegments, by simp⟩
    · exact ⟨rest, hall, rfl⟩
  · rintro ⟨rest, hrest, heq⟩
    rw [spell_inj hall hrest] at heq
    by_cases hnil : rest = []
    · exact Or.inl (by simpa [hnil] using heq)
    · exact Or.inr ⟨rest, hnil, heq⟩

/-- Two subtrees with a path in common are one inside the other. -/
lemma nested_of_common (h : IsNormal path) (hsource : IsNormal source) (htarget : IsNormal target)
    (hin : path = source ∨ isBelow path source = true)
    (hin' : path = target ∨ isBelow path target = true) :
    source = target ∨ isBelow source target = true ∨ isBelow target source = true := by
  obtain ⟨here, hhere, rfl⟩ := isNormal_iff_spell.mp hsource
  obtain ⟨there, hthere, rfl⟩ := isNormal_iff_spell.mp htarget
  obtain ⟨rest, hrest, rfl⟩ := (eq_or_isBelow_iff h hhere).mp hin
  obtain ⟨rest', hrest', heq⟩ := (eq_or_isBelow_iff h hthere).mp hin'
  rw [spell_inj hrest hrest', List.append_eq_append_iff] at heq
  rcases heq with ⟨more, rfl, -⟩ | ⟨more, rfl, -⟩ <;> by_cases hnil : more = []
  · exact Or.inl (by simp [hnil])
  · exact Or.inr (Or.inr ((isBelow_spell_iff hthere hhere).mpr ⟨more, hnil, rfl⟩))
  · exact Or.inl (by simp [hnil])
  · exact Or.inr (Or.inl ((isBelow_spell_iff hhere hthere).mpr ⟨more, hnil, rfl⟩))

/-- `eq_or_isBelow_iff`, together with what the path becomes. -/
lemma exists_rebase (h : IsNormal path) (hsource : IsNormal source) (htarget : IsNormal target)
    (hmoves : path = source ∨ isBelow path source = true) :
    ∃ here there rest, AreSegments (here ++ rest) ∧ AreSegments (there ++ rest)
      ∧ source = spell here ∧ target = spell there ∧ path = spell (here ++ rest)
      ∧ rebase path source target = spell (there ++ rest) := by
  obtain ⟨here, hhere, rfl⟩ := isNormal_iff_spell.mp hsource
  obtain ⟨there, hthere, rfl⟩ := isNormal_iff_spell.mp htarget
  obtain ⟨rest, hrest, rfl⟩ := (eq_or_isBelow_iff h hhere).mp hmoves
  exact ⟨here, there, rest, hrest, areSegments_append.mpr ⟨hthere, (areSegments_append.mp hrest).2⟩,
    rfl, rfl, rfl, rebase_spell rest hrest hthere⟩

/-- `exists_rebase` strictly inside the subtree, where there is a last segment that moves along. -/
lemma exists_rebase_concat (h : IsNormal path) (hsource : IsNormal source)
    (htarget : IsNormal target) (hbelow : isBelow path source = true) :
    ∃ here there front last, AreSegments (here ++ front ++ [last])
      ∧ AreSegments (there ++ front ++ [last]) ∧ source = spell here ∧ target = spell there
      ∧ path = spell (here ++ front ++ [last])
      ∧ rebase path source target = spell (there ++ front ++ [last]) := by
  obtain ⟨here, there, rest, hhere, hthere, rfl, rfl, rfl, hrebase⟩ :=
    exists_rebase h hsource htarget (Or.inr hbelow)
  obtain ⟨more, hmore, heq⟩ :=
    (isBelow_spell_iff hhere (areSegments_append.mp hhere).1).mp hbelow
  rw [← List.append_cancel_left heq] at hmore
  obtain ⟨front, last, rfl⟩ := List.eq_nil_or_concat rest |>.resolve_left hmore
  simp only [List.concat_eq_append, ← List.append_assoc] at hhere hthere hrebase ⊢
  exact ⟨here, there, front, last, hhere, hthere, rfl, rfl, rfl, hrebase⟩

lemma rebase_self : rebase source source target = target := if_pos rfl

lemma isNormal_rebase (h : IsNormal path) (hsource : IsNormal source) (htarget : IsNormal target)
    (hmoves : path = source ∨ isBelow path source = true) :
    IsNormal (rebase path source target) := by
  obtain ⟨_, _, _, _, hthere, _, _, _, hrebase⟩ := exists_rebase h hsource htarget hmoves
  exact hrebase ▸ isNormal_spell hthere

/-- What lay below the source lies below the target. -/
lemma isBelow_rebase (h : IsNormal path) (hsource : IsNormal source) (htarget : IsNormal target)
    (hbelow : isBelow path source = true) : isBelow (rebase path source target) target = true := by
  obtain ⟨here, there, rest, hhere, hthere, rfl, rfl, rfl, hrebase⟩ :=
    exists_rebase h hsource htarget (Or.inr hbelow)
  have hup : AreSegments here := (areSegments_append.mp hhere).1
  obtain ⟨more, hmore, heq⟩ := (isBelow_spell_iff hhere hup).mp hbelow
  rw [hrebase, isBelow_spell_iff hthere (areSegments_append.mp hthere).1]
  exact ⟨rest, by rwa [List.append_cancel_left heq], rfl⟩

/-- Whatever the texts, a move leads to the target or below it. -/
lemma rebase_eq_or_isBelow (path source target : String) :
    rebase path source target = target ∨ isBelow (rebase path source target) target = true := by
  rw [rebase]
  split
  · exact Or.inl rfl
  · refine or_iff_not_imp_left.mpr fun hne => ?_
    by_cases hroot : target = "/"
    · subst hroot
      simpa [isBelow] using hne
    · have hafter : after? target.toList (join target (below path source)).toList
          = some ('/' :: (below path source).toList) := by
        rw [join, if_neg hroot, after?_eq_some_iff]
        simp
      simp only [isBelow, if_neg hroot, hafter]

/-- Moving leads two paths to one only if they are one. -/
lemma rebase_inj (h : IsNormal path) (hother : IsNormal other) (hsource : IsNormal source)
    (htarget : IsNormal target) (hmoves : path = source ∨ isBelow path source = true)
    (hmoves' : other = source ∨ isBelow other source = true)
    (heq : rebase path source target = rebase other source target) : path = other := by
  obtain ⟨here, there, rest, hhere, hthere, rfl, rfl, rfl, hrebase⟩ :=
    exists_rebase h hsource htarget hmoves
  obtain ⟨here', there', rest', hhere', hthere', hsame, hsame', rfl, hrebase'⟩ :=
    exists_rebase hother hsource htarget hmoves'
  rw [spell_inj (areSegments_append.mp hhere).1 (areSegments_append.mp hhere').1] at hsame
  rw [spell_inj (areSegments_append.mp hthere).1 (areSegments_append.mp hthere').1] at hsame'
  subst hsame hsame'
  rw [hrebase, hrebase', spell_inj hthere hthere'] at heq
  rw [List.append_cancel_left heq]

/-- A step up and a move can be taken in either order, as long as the step stays inside what
moves. -/
lemma parent?_rebase (h : IsNormal path) (hsource : IsNormal source) (htarget : IsNormal target)
    (hbelow : isBelow path source = true) (hup : parent? path = some up) :
    parent? (rebase path source target) = some (rebase up source target) := by
  obtain ⟨here, there, front, last, hhere, hthere, rfl, rfl, rfl, hrebase⟩ :=
    exists_rebase_concat h hsource htarget hbelow
  rw [parent?_spell_concat hhere, Option.some_inj] at hup
  rw [hrebase, parent?_spell_concat hthere, ← hup,
    rebase_spell front (areSegments_append.mp hhere).1
      (areSegments_append.mp (areSegments_append.mp hthere).1).1]

/-- A move does not change the last segment of what is inside the subtree. -/
lemma fileName_rebase (h : IsNormal path) (hsource : IsNormal source) (htarget : IsNormal target)
    (hbelow : isBelow path source = true) :
    fileName (rebase path source target) = fileName path := by
  obtain ⟨here, there, front, last, hhere, hthere, rfl, rfl, rfl, hrebase⟩ :=
    exists_rebase_concat h hsource htarget hbelow
  rw [hrebase, fileName_spell_concat hhere, fileName_spell_concat hthere]

end VirtualShell.Path
