import VirtualShell.Proofs.Path.Tree

/-!
# Naming a path from a working directory

`resolve` is how every operand becomes a path.  It reads its argument after the working directory
and works off `.` and `..`, which may take away segments on the other side of the join; an argument
that begins with a slash or names the home directory leaves the working directory out.

**One segment.**  `resolve_dot`, `resolve_dots` and `resolve_name` say where a single segment leads
from a directory: nowhere, one step up, one step down.

**Many segments.**  `resolve_composes`: an argument of two parts is resolved part by part, so going
to the first and naming the second from there is the same as naming both at once.  With the three
facts about one segment this determines what any relative argument names.
-/

namespace VirtualShell.Path

open Text

variable {cwd raw path : String}

/-! ## Reading on -/

/-- Behind a slash, reading goes on from the segments that the text before it has left. -/
lemma normalSegments_append_slash (left right : List Char) :
    normalSegments (left ++ '/' :: right)
      = ((pieces '/' right).foldl walk (normalSegments left).reverse).reverse := by
  simp only [normalSegments, pieces_append_sep, List.foldl_append, List.reverse_reverse]

/-- What stands before a slash counts only by its normal form. -/
lemma normalize_append_slash_congr {left left' : String} (h : normalize left = normalize left')
    (right : String) : normalize (left ++ "/" ++ right) = normalize (left' ++ "/" ++ right) := by
  have hsegments : normalSegments left.toList = normalSegments left'.toList := by
    rwa [normalize_eq_spell, normalize_eq_spell,
      spell_inj (areSegments_normalSegments _) (areSegments_normalSegments _)] at h
  have hread : ∀ text : String,
      (text ++ "/" ++ right).toList = text.toList ++ '/' :: right.toList := fun text => by simp
  rw [normalize_eq_spell, normalize_eq_spell, hread, hread, normalSegments_append_slash,
    normalSegments_append_slash, hsegments]

/-- A text behind the slash of the root is read as behind a directory of no segments. -/
lemma normalize_slash_append (right : String) :
    normalize ("/" ++ "/" ++ right) = normalize ("/" ++ right) := by
  have hempty : "/" ++ right = "" ++ "/" ++ right := by simp
  rw [hempty]
  exact normalize_append_slash_congr (by decide) right

/-! ## Relative arguments -/

/-- An argument that is read from the working directory on: it does not begin at the root, and it
does not name the home directory or anything below it. -/
structure IsRelative (raw : String) : Prop where
  notRooted : ¬ ['/'] <+: raw.toList
  notHome : raw ≠ "~"
  notBelowHome : ¬ ['~', '/'] <+: raw.toList

instance (raw : String) : Decidable (IsRelative raw) :=
  decidable_of_iff (¬ ['/'] <+: raw.toList ∧ raw ≠ "~" ∧ ¬ ['~', '/'] <+: raw.toList)
    ⟨fun h => ⟨h.1, h.2.1, h.2.2⟩, fun h => ⟨h.1, h.2, h.3⟩⟩

/-- The four ways in which an argument is read. -/
lemma reading_cases (raw : String) :
    (∃ rest, raw = "/" ++ rest) ∨ raw = "~" ∨ (∃ rest, raw = "~/" ++ rest) ∨ IsRelative raw := by
  have hbegins : ∀ beginning : String, beginning.toList <+: raw.toList →
      ∃ rest, raw = beginning ++ rest := by
    rintro beginning ⟨rest, hrest⟩
    exact ⟨String.ofList rest, String.toList_inj.mp (by simp [hrest])⟩
  by_cases hroot : "/".toList <+: raw.toList
  · exact Or.inl (hbegins "/" hroot)
  by_cases hhome : raw = "~"
  · exact Or.inr (Or.inl hhome)
  by_cases hbelow : "~/".toList <+: raw.toList
  · exact Or.inr (Or.inr (Or.inl (hbegins "~/" hbelow)))
  · exact Or.inr (Or.inr (Or.inr ⟨hroot, hhome, hbelow⟩))

lemma absolute_rooted (cwd rest : String) : absolute cwd ("/" ++ rest) = "/" ++ rest := by
  simp [absolute]

lemma absolute_home (cwd : String) : absolute cwd "~" = home := rfl

lemma absolute_belowHome (cwd rest : String) :
    absolute cwd ("~/" ++ rest) = home ++ "/" ++ rest := by
  simp [absolute]

lemma absolute_of_isRelative (h : IsRelative raw) :
    absolute cwd raw = if cwd = "/" then "/" ++ raw else cwd ++ "/" ++ raw := by
  obtain ⟨hroot, hhome, hbelow⟩ := h
  have hhome : raw.toList ≠ ['~'] := fun heq => hhome (String.toList_inj.mp (by simpa using heq))
  unfold absolute
  split
  · rename_i rest heq
    exact absurd ⟨rest, heq.symm⟩ hroot
  · rename_i heq
    exact absurd heq hhome
  · rename_i rest heq
    exact absurd ⟨rest, heq.symm⟩ hbelow
  · rfl

/-- A relative argument is read behind the working directory, be it the root or not. -/
lemma resolve_of_isRelative (h : IsRelative raw) :
    resolve cwd raw = normalize (cwd ++ "/" ++ raw) := by
  rw [resolve, absolute_of_isRelative h]
  split
  · rename_i hroot
    rw [hroot, normalize_slash_append]
  · rfl

/-- What comes behind a first part does not change how that part is read. -/
lemma IsRelative.append_slash (h : IsRelative raw) (hraw : raw ≠ "") (more : String) :
    IsRelative (raw ++ "/" ++ more) := by
  obtain ⟨c, cs, hchars⟩ := List.exists_cons_of_ne_nil (mt String.toList_eq_nil_iff.mp hraw)
  obtain ⟨hroot, hhome, hbelow⟩ := h
  have hwhole : (raw ++ "/" ++ more).toList = c :: (cs ++ '/' :: more.toList) := by simp [hchars]
  rw [hchars] at hroot hbelow
  refine ⟨?_, ?_, ?_⟩
  · rw [hwhole]
    simpa using hroot
  · intro heq
    have hlength := congrArg (fun text : String => text.toList.length) heq
    simp [hwhole] at hlength
  · rw [hwhole]
    cases cs with
    | nil =>
        have hc : '~' ≠ c := by
          rintro rfl
          exact hhome (String.toList_inj.mp hchars)
        simp [hc]
    | cons d ds => simpa using hbelow

/-- What is typed behind an argument and a slash comes behind what the argument stands for. -/
lemma absolute_append_slash (hraw : raw ≠ "") (cwd more : String) :
    absolute cwd (raw ++ "/" ++ more) = absolute cwd raw ++ "/" ++ more := by
  rcases reading_cases raw with ⟨rest, rfl⟩ | rfl | ⟨rest, rfl⟩ | hrelative
  · rw [String.append_assoc, String.append_assoc, absolute_rooted, absolute_rooted,
      ← String.append_assoc, ← String.append_assoc]
  · have hbelow : "~" ++ "/" ++ more = "~/" ++ more := by
      rw [show ("~" ++ "/" : String) = "~/" from rfl]
    rw [hbelow, absolute_belowHome, absolute_home]
  · rw [String.append_assoc, String.append_assoc, absolute_belowHome, absolute_belowHome,
      ← String.append_assoc, ← String.append_assoc]
  · rw [absolute_of_isRelative hrelative, absolute_of_isRelative (hrelative.append_slash hraw more)]
    split <;> simp [String.append_assoc]

/-! ## One segment -/

/-- A path in normal form names itself wherever it is typed. -/
lemma resolve_of_isNormal (h : IsNormal path) (cwd : String) : resolve cwd path = path := by
  obtain ⟨segments, hsegments, hpath⟩ := isNormal_iff_spell.mp h
  have hrooted : path = "/" ++ String.ofList (glue ['/'] segments) := by
    apply String.toList_inj.mp
    simp [hpath, ofSegments]
  rw [resolve, hrooted, absolute_rooted, ← hrooted]
  exact h

/-- A piece of text behind a directory is one more step of reading. -/
lemma normalize_spell_append {segments : List (List Char)} {piece : String}
    (hsegments : AreSegments segments) (hpiece : '/' ∉ piece.toList) :
    normalize (spell segments ++ "/" ++ piece)
      = spell (walk segments.reverse piece.toList).reverse := by
  have hread : (spell segments ++ "/" ++ piece).toList
      = ofSegments segments ++ '/' :: piece.toList := by simp
  rw [normalize_eq_spell, hread, normalSegments_append_slash, pieces_of_not_mem hpiece,
    normalSegments_ofSegments hsegments]
  rfl

/-- A dot names the working directory. -/
theorem resolve_dot (h : IsNormal cwd) : resolve cwd "." = cwd := by
  obtain ⟨segments, hsegments, rfl⟩ := isNormal_iff_spell.mp h
  rw [resolve_of_isRelative (by decide), normalize_spell_append hsegments (by decide)]
  simp [walk]

/-- Two dots name the directory above, and at the root the root. -/
theorem resolve_dots (h : IsNormal cwd) : resolve cwd ".." = (parent? cwd).getD "/" := by
  rw [resolve_of_isRelative (by decide)]
  rcases h.root_or_concat with rfl | ⟨segments, last, hsegments, rfl⟩
  · decide
  · rw [normalize_spell_append hsegments (by decide), parent?_spell_concat hsegments]
    simp [walk]

/-- A name names what stands under it in the working directory; a tilde has to be told apart from
the home directory. -/
theorem resolve_name {name : String} (h : IsNormal cwd) (hname : IsSegment name.toList)
    (hhome : name ≠ "~") : resolve cwd name = join cwd name := by
  obtain ⟨segments, hsegments, rfl⟩ := isNormal_iff_spell.mp h
  obtain ⟨hne, hdot, hdots, hslash⟩ := hname
  have hrelative : IsRelative name := by
    refine ⟨?_, hhome, ?_⟩
    · exact fun hbegin => hslash (hbegin.subset (by simp))
    · exact fun hbegin => hslash (hbegin.subset (by simp))
  have hwalk : walk segments.reverse name.toList = name.toList :: segments.reverse := by
    simp only [walk]
    rw [if_neg (not_or.mpr ⟨hne, hdot⟩), if_neg hdots]
  rw [resolve_of_isRelative hrelative, normalize_spell_append hsegments hslash, hwalk]
  simpa using (join_spell hsegments name.toList).symm

/-- A tilde alone names the home directory wherever it is typed. -/
lemma resolve_tilde (cwd : String) : resolve cwd "~" = home := by
  rw [resolve, absolute_home]
  decide

/-- What a name leads to lies in the working directory, unless the name is a tilde and the home
directory lies elsewhere. -/
theorem isBelow_resolve_name_iff {name : String} (h : IsNormal cwd)
    (hname : IsSegment name.toList) :
    isBelow (resolve cwd name) cwd = true ↔ name ≠ "~" ∨ isBelow home cwd = true := by
  by_cases hhome : name = "~"
  · simp [hhome, resolve_tilde]
  · rw [resolve_name h hname hhome]
    exact iff_of_true (isBelow_join h hname) (Or.inl hhome)

/-! ## Many segments -/

/-- Whatever is typed names a path of segments, each behind one slash. -/
lemma exists_segments_resolve (cwd raw : String) :
    ∃ segments : List String, (∀ segment ∈ segments, IsSegment segment.toList)
      ∧ resolve cwd raw = "/" ++ "/".intercalate segments := by
  obtain ⟨segments, hsegments, hpath⟩ := isNormal_iff_spell.mp (isNormal_resolve cwd raw)
  refine ⟨segments.map String.ofList, ?_, ?_⟩
  · intro segment hmem
    obtain ⟨chars, hchars, rfl⟩ := List.mem_map.mp hmem
    simpa using hsegments chars hchars
  · rw [hpath]
    apply String.toList_inj.mp
    simp [ofSegments, glue, List.intercalate, Function.comp_def]

/-- Naming a relative path from a named directory. -/
lemma resolve_resolve (hraw : raw ≠ "") {more : String} (hmore : IsRelative more) (cwd : String) :
    resolve (resolve cwd raw) more = resolve cwd (raw ++ "/" ++ more) := by
  rw [resolve_of_isRelative hmore, resolve, resolve, absolute_append_slash hraw]
  exact normalize_append_slash_congr (isNormal_normalize _) more

/-- **Resolving composes.**  Whatever is typed in whatever directory, the path that it names is a
slash and then segments with one slash between each two, none of them empty, `.` or `..`;
normalising leaves it as it is, and a path in this form names itself.  A second part that is not
read from the root or from the home directory means the same behind the first part and a slash as
it means in the directory that the first part names. -/
theorem resolve_composes (cwd first second : String) :
    (∃ segments : List String, (∀ segment ∈ segments, IsSegment segment.toList)
        ∧ resolve cwd first = "/" ++ "/".intercalate segments)
      ∧ normalize (resolve cwd first) = resolve cwd first
      ∧ (IsNormal first → resolve cwd first = first)
      ∧ (first ≠ "" → IsRelative second →
          resolve (resolve cwd first) second = resolve cwd (first ++ "/" ++ second)) :=
  ⟨exists_segments_resolve cwd first, isNormal_resolve cwd first,
    fun hfirst => resolve_of_isNormal hfirst cwd,
    fun hfirst hsecond => resolve_resolve hfirst hsecond cwd⟩

/-- The second part goes up past the first, past the home directory and past the root, where a
tilde is a name like any other. -/
theorem resolve_composes_past_root :
    resolve "/tmp" "/home/user" = "/home/user"
      ∧ resolve (resolve "/tmp" "~/a//") ".././../../../../~/b" = "/~/b"
      ∧ resolve "/tmp" "~/a///.././../../../../~/b" = "/~/b" := by
  obtain ⟨-, -, hself, -⟩ := resolve_composes "/tmp" "/home/user" ".."
  obtain ⟨-, -, -, hparts⟩ := resolve_composes "/tmp" "~/a//" ".././../../../../~/b"
  have hwhole : resolve "/tmp" "~/a///.././../../../../~/b" = "/~/b" := by decide +kernel
  exact ⟨hself (by decide), (hparts (by decide) (by decide)).trans hwhole, hwhole⟩

end VirtualShell.Path
