import VirtualShell.Proofs.Text.Unspaced
import VirtualShell.Url.Basic

/-!
# Paths of addresses without blanks

In the path of an address that has segments, blanks are escaped whatever has been written
(`unspaced_pathOf`).  An opaque path is escaped less: a space may remain in it, but only one that
has been written.  So the path of an address is without blanks if its text is
(`unspaced_path_of_parse?`).
-/

namespace VirtualShell.Url

open Text (Unspaced isBlank unspaced_cons unspaced_nil)

variable {naming : Naming} {set : Char → Bool} {text segment : List Char} {c : Char}

/-! ## Escapes -/

/-- Only the controls, the space and characters beyond ASCII are blank. -/
lemma isBlank_eq_false_of_ascii (hcontrol : isAsciiControl c = false) (hspace : c ≠ ' ')
    (hascii : c.toNat < 0x80) : isBlank c = false := by
  have hspace : c.toNat ≠ 0x20 := fun heq =>
    hspace (by rw [← Char.ofNat_toNat c, heq])
  simp only [isAsciiControl, Bool.or_eq_false_iff, decide_eq_false_iff_not] at hcontrol
  simp only [isBlank, Text.inRanges, Text.blankRanges, List.any_cons, List.any_nil,
    Bool.or_eq_false_iff, Bool.and_eq_false_iff, decide_eq_false_iff_not, and_true]
  refine ⟨?_, ?_, ?_, ?_, ?_, ?_, ?_, ?_, ?_, ?_⟩ <;> omega

lemma unspaced_escapeBytes (c : Char) : Unspaced (escapeBytes c) := by
  have hbytes : ∀ n < 256, Unspaced (Text.upperHexByte (UInt8.ofNat n)) := by decide +kernel
  intro d hd
  obtain ⟨byte, -, hd⟩ := List.mem_flatMap.mp hd
  rcases List.mem_cons.mp hd with rfl | hdigit
  · decide
  · exact hbytes byte.toNat byte.toNat_lt d (by rwa [UInt8.ofNat_toNat])

/-- What is not escaped decides. -/
lemma unspaced_escape
    (h : ∀ c ∈ text, set c = false → c.toNat < 0x80 → isBlank c = false) :
    Unspaced (escape set text) := by
  intro d hd
  obtain ⟨c, hc, hd⟩ := List.mem_flatMap.mp hd
  split at hd
  · exact unspaced_escapeBytes c d hd
  · rename_i hplain
    simp only [Bool.or_eq_true, decide_eq_true_eq, not_or, Bool.not_eq_true, Nat.not_le] at hplain
    rw [List.mem_singleton.mp hd]
    exact h c hc hplain.1 hplain.2

/-- The set of characters that are escaped in a path holds all blanks of ASCII. -/
lemma unspaced_escape_pathSet (text : List Char) : Unspaced (escape pathSet text) := by
  refine unspaced_escape fun c _ hset hascii => ?_
  simp only [pathSet, fragmentSet, Bool.or_eq_false_iff] at hset
  refine isBlank_eq_false_of_ascii hset.1.1 ?_ hascii
  rintro rfl
  exact absurd hset.1.2 (by decide)

/-! ## Segments -/

lemma isAlpha_of_cutDrive? {letter mark : Char} {rest : List Char}
    (h : cutDrive? segment = some (letter, mark, rest)) : letter.isAlpha = true := by
  unfold cutDrive? at h
  split at h
  · split at h
    · rename_i hcond
      simp only [Option.some.injEq, Prod.mk.injEq] at h
      rw [Bool.and_eq_true] at hcond
      exact h.1 ▸ hcond.1
    · simp at h
  · simp at h

lemma isBlank_of_isAlpha (h : c.isAlpha = true) : isBlank c = false := by
  have hrange : 65 ≤ c.toNat ∧ c.toNat ≤ 90 ∨ 97 ≤ c.toNat ∧ c.toNat ≤ 122 := by
    have hletter : (decide (c.val ≥ 65 ∧ c.val ≤ 90)
      || decide (c.val ≥ 97) && decide (c.val ≤ 122)) = true := h
    simp only [Bool.or_eq_true, Bool.and_eq_true, decide_eq_true_eq, ge_iff_le,
      UInt32.le_iff_toNat_le] at hletter
    exact hletter
  refine isBlank_eq_false_of_ascii ?_ ?_ (by omega)
  · simp only [isAsciiControl, Bool.or_eq_false_iff, decide_eq_false_iff_not]
    omega
  · rintro rfl
    simp at hrange

/-- No blank gets into a segment that is kept. -/
lemma unspaced_keepSegment (isFile : Bool) (segment : List Char) {kept : List (List Char)}
    (h : ∀ one ∈ kept, Unspaced one) : ∀ one ∈ keepSegment isFile segment kept, Unspaced one := by
  unfold keepSegment
  split
  · rename_i letter _ hdrive
    have hletter := isBlank_of_isAlpha (isAlpha_of_cutDrive? hdrive)
    simpa using unspaced_cons.mpr ⟨hletter, by decide⟩
  · rename_i letter rest _ _ hdrive
    have hletter := isBlank_of_isAlpha (isAlpha_of_cutDrive? hdrive)
    simpa using ⟨unspaced_escape_pathSet rest, unspaced_cons.mpr ⟨hletter, by decide⟩⟩
  · exact List.forall_mem_cons.mpr ⟨unspaced_escape_pathSet segment, h⟩

lemma unspaced_dropSegment {kept : List (List Char)} (h : ∀ one ∈ kept, Unspaced one) :
    ∀ one ∈ dropSegment kept, Unspaced one := by
  cases kept with
  | nil => exact h
  | cons last rest =>
      simp only [dropSegment]
      split
      · exact h
      · exact (List.forall_mem_cons.mp h).2

lemma unspaced_keepSegments (isFile : Bool) (segments : List (List Char)) {kept : List (List Char)}
    (h : ∀ one ∈ kept, Unspaced one) :
    ∀ one ∈ keepSegments isFile kept segments, Unspaced one := by
  induction segments generalizing kept with
  | nil => simpa [keepSegments] using h
  | cons segment rest ih =>
      have hending : ∀ kept : List (List Char), (∀ one ∈ kept, Unspaced one) →
          ∀ one ∈ (if rest.isEmpty then [] :: kept else kept), Unspaced one := by
        intro kept hkept
        split
        · exact List.forall_mem_cons.mpr ⟨unspaced_nil, hkept⟩
        · exact hkept
      simp only [keepSegments]
      split
      · exact ih (hending _ (unspaced_dropSegment h))
      · split
        · exact ih (hending _ h)
        · exact ih (unspaced_keepSegment isFile segment h)

lemma unspaced_pathOf (isSpecial isFile : Bool) (text : List Char) :
    Unspaced (pathOf isSpecial isFile text).toList := by
  simp only [pathOf, String.toList_ofList, unspaced_cons]
  refine ⟨by decide, ?_⟩
  have hpath : Unspaced (Text.glue ['/'] (keepSegments isFile [] (Text.pieces '/'
      (if isSpecial then text.map fun c => if c = '\\' then '/' else c else text)))) :=
    Text.unspaced_intercalate (by decide)
      (unspaced_keepSegments isFile _ (List.forall_mem_nil _))
  split
  · exact hpath.of_subset (List.dropWhile_suffix _).subset
  · exact hpath

/-! ## Addresses -/

lemma unspaced_withPath (scheme : String) (authority : Option Authority) (text : List Char) :
    Unspaced (withPath scheme authority text).path.toList := by
  simp only [withPath, withTail]
  split
  · exact unspaced_nil
  · exact unspaced_pathOf _ _ _

lemma unspaced_parseFile? {scheme : String} {url : Url}
    (h : parseFile? naming scheme text = some url) :
    Unspaced url.path.toList := by
  have haddress : ∀ host text, Unspaced (fileAddress scheme host text).path.toList :=
    fun host text => unspaced_pathOf _ _ _
  simp only [parseFile?] at h
  split at h
  · split at h
    · split at h
      · exact Option.some.inj h ▸ haddress _ _
      · obtain ⟨host, -, rfl⟩ := Option.map_eq_some_iff.mp h
        exact haddress _ _
    · exact Option.some.inj h ▸ haddress _ _
  · exact Option.some.inj h ▸ haddress _ _

lemma unspaced_parseOther? {scheme : String} {url : Url}
    (h : parseOther? naming scheme text = some url) (htext : Unspaced text) :
    Unspaced url.path.toList := by
  simp only [parseOther?] at h
  split at h
  · obtain ⟨cut, -, hrest⟩ := Option.bind_eq_some_iff.mp h
    exact Option.some.inj hrest ▸ unspaced_withPath _ _ _
  · exact Option.some.inj h ▸ unspaced_withPath _ _ _
  · obtain rfl := Option.some.inj h
    simp only [withTail, String.toList_ofList]
    exact unspaced_escape fun c hc _ _ => htext c ((List.takeWhile_prefix _).subset hc)

/-- What follows the scheme of a text is part of it. -/
lemma cutScheme?_subset {cut : String × List Char} (h : cutScheme? text = some cut) :
    cut.2 ⊆ text := by
  simp only [cutScheme?] at h
  split at h
  · rename_i rest hdrop
    split at h
    · obtain rfl := Option.some.inj h
      exact fun c hc => (List.dropWhile_suffix _).subset (hdrop ▸ List.mem_cons_of_mem _ hc)
    · simp at h
  · simp at h

/-- **An address that is written without blanks has a path without blanks.** -/
theorem unspaced_path_of_parse? {text : String} {url : Url} (h : parse? naming text = some url)
    (htext : Unspaced text.toList) : Unspaced url.path.toList := by
  obtain ⟨⟨scheme, rest⟩, hcut, hrest⟩ := Option.bind_eq_some_iff.mp h
  dsimp only at hrest
  split at hrest
  · exact unspaced_parseFile? hrest
  · split at hrest
    · obtain ⟨cut, -, hurl⟩ := Option.bind_eq_some_iff.mp hrest
      exact Option.some.inj hurl ▸ unspaced_withPath _ _ _
    · refine unspaced_parseOther? hrest (htext.of_subset fun c hc => ?_)
      have hin := (List.mem_filter.mp (cutScheme?_subset hcut hc)).1
      exact Text.trimBoth_subset _ _ hin

end VirtualShell.Url
