import Mathlib.Order.Bounds.Basic
import Mathlib.Tactic.Common
import VirtualShell.Log.Policy

/-!
# How long values are cut

A value that is too long for the log is cut at a place where a character begins.  The place is found
by going back from the limit, byte by byte, so it is the last one at or before the limit
(`isGreatest_lastBoundary`); what stands in front of it is the longest beginning of whole characters
that fits (`CutWithin`), and the rest is counted in bytes.
-/

namespace VirtualShell

namespace Text

variable {text kept rest : String} {limit : Nat}

/-! ## Places to cut -/

/-- A text can be cut behind as many bytes as one of its beginnings has. -/
lemma isValid_iff {n : Nat} :
    String.Pos.Raw.isValid text ⟨n⟩ = true
      ↔ ∃ kept rest, text = kept ++ rest ∧ kept.utf8ByteSize = n := by
  rw [String.Pos.Raw.isValid_eq_true_iff, String.Pos.Raw.isValid_iff_exists_append]
  simp only [String.Pos.Raw.ext_iff, String.byteIdx_rawEndPos, eq_comm]

/-- Going back from the limit ends at the last place where the text can be cut.  At worst that is
its beginning. -/
lemma isGreatest_lastBoundary (text : String) (limit : Nat) :
    IsGreatest {n | n ≤ limit ∧ String.Pos.Raw.isValid text ⟨n⟩ = true}
      (lastBoundary text limit) := by
  induction limit with
  | zero =>
      have hstart : String.Pos.Raw.isValid text ⟨0⟩ = true :=
        isValid_iff.mpr ⟨"", text, by simp, rfl⟩
      exact ⟨⟨Nat.le_refl 0, hstart⟩, fun n hn => hn.1⟩
  | succ limit ih =>
      by_cases hvalid : String.Pos.Raw.isValid text ⟨limit + 1⟩ = true
      · rw [lastBoundary, if_pos hvalid]
        exact ⟨⟨Nat.le_refl _, hvalid⟩, fun n hn => hn.1⟩
      · rw [lastBoundary, if_neg hvalid]
        refine ⟨⟨Nat.le_succ_of_le ih.1.1, ih.1.2⟩, fun n hn => ih.2 ⟨?_, hn.2⟩⟩
        refine Nat.le_of_lt_succ (Nat.lt_of_le_of_ne hn.1 ?_)
        rintro rfl
        exact hvalid hn.2

/-! ## Beginnings -/

lemma byteLength_toList (text : String) : byteLength text.toList = text.utf8ByteSize := by
  obtain ⟨chars, rfl⟩ : ∃ chars, text = String.ofList chars := ⟨text.toList, by simp⟩
  rw [String.toList_ofList]
  induction chars with
  | nil => rfl
  | cons c cs ih =>
      rw [String.ofList_cons, String.utf8ByteSize_append, String.utf8ByteSize_singleton, ← ih]
      rfl

/-- The bytes of a beginning are taken. -/
lemma takeBytes_append (left right : List Char) :
    takeBytes (byteLength left) (left ++ right) = left := by
  induction left with
  | nil =>
      cases right with
      | nil => rfl
      | cons c cs =>
          have hpos : ¬ c.utf8Size ≤ 0 := Nat.not_le.mpr c.utf8Size_pos
          rw [List.nil_append, takeBytes, byteLength, List.foldr_nil, if_neg hpos]
  | cons c cs ih =>
      have hlength : byteLength (c :: cs) = c.utf8Size + byteLength cs := rfl
      rw [List.cons_append, takeBytes, hlength, if_pos (Nat.le_add_right _ _),
        Nat.add_sub_cancel_left, ih]

/-- Of two beginnings of a text the shorter one is a beginning of the other. -/
lemma exists_eq_append_of_le {other more : String} (hwhole : kept ++ rest = other ++ more)
    (hle : other.utf8ByteSize ≤ kept.utf8ByteSize) : ∃ between, kept = other ++ between := by
  have hlists := congrArg String.toList hwhole
  rw [String.toList_append, String.toList_append] at hlists
  rcases List.append_eq_append_iff.mp hlists with ⟨extra, hother, -⟩ | ⟨between, hkept, -⟩
  · have hother : other = kept ++ String.ofList extra := String.toList_inj.mp (by simp [hother])
    have hnone : String.ofList extra = "" := by
      rw [hother, String.utf8ByteSize_append] at hle
      rw [← String.utf8ByteSize_eq_zero_iff]
      omega
    exact ⟨"", by rw [hother, hnone, String.append_empty, String.append_empty]⟩
  · exact ⟨String.ofList between, String.toList_inj.mp (by simp [hkept])⟩

/-- A text is cut behind its longest beginning of whole characters that has at most so many
bytes. -/
structure CutWithin (limit : Nat) (text kept rest : String) : Prop where
  whole : text = kept ++ rest
  fits : kept.utf8ByteSize ≤ limit
  /-- Every beginning that fits is a beginning of what is kept. -/
  longest : ∀ other more, text = other ++ more → other.utf8ByteSize ≤ limit →
    ∃ between, kept = other ++ between

/-- The last place where a text can be cut is the end of its longest beginning that fits. -/
lemma exists_cutWithin (text : String) (limit : Nat) :
    ∃ kept rest, CutWithin limit text kept rest
      ∧ kept.utf8ByteSize = lastBoundary text limit := by
  obtain ⟨⟨hle, hvalid⟩, hgreatest⟩ := isGreatest_lastBoundary text limit
  obtain ⟨kept, rest, hwhole, hsize⟩ := isValid_iff.mp hvalid
  refine ⟨kept, rest, ⟨hwhole, hsize ▸ hle, fun other more hother hfits => ?_⟩, hsize⟩
  have hplace := hgreatest ⟨hfits, isValid_iff.mpr ⟨other, more, hother, rfl⟩⟩
  exact exists_eq_append_of_le (hwhole ▸ hother) (hsize ▸ hplace)

end Text

namespace Log

open Text

/-- **A value that is too long keeps its longest beginning that fits.**  The rest is counted; any
other value is left as it is. -/
theorem truncate_keeps_longest (policy : Policy) (value : String) :
    (value.utf8ByteSize ≤ policy.maxLength → policy.truncate value = value)
      ∧ (policy.maxLength < value.utf8ByteSize →
          ∃ kept rest, CutWithin policy.maxLength value kept rest
            ∧ policy.truncate value
              = kept ++ "...[truncated " ++ toString rest.utf8ByteSize ++ " bytes]") := by
  refine ⟨fun hfits => if_pos hfits, fun hlong => ?_⟩
  obtain ⟨kept, rest, hcut, hsize⟩ := exists_cutWithin value policy.maxLength
  have htaken : String.ofList (takeBytes kept.utf8ByteSize value.toList) = kept := by
    rw [hcut.whole, String.toList_append, ← byteLength_toList, takeBytes_append,
      String.ofList_toList]
  have hrest : value.utf8ByteSize - kept.utf8ByteSize = rest.utf8ByteSize := by
    rw [hcut.whole, String.utf8ByteSize_append, Nat.add_sub_cancel_left]
  refine ⟨kept, rest, hcut, ?_⟩
  simp only [Policy.truncate, if_neg (Nat.not_le.mpr hlong), ← hsize, htaken, hrest]

/-- The limit lies inside the second of three characters with two bytes each. -/
theorem truncate_keeps_longest_inside_character :
    3 < "ééé".utf8ByteSize
      ∧ ∃ kept rest, CutWithin 3 "ééé" kept rest
        ∧ Policy.truncate ⟨true, false, 3⟩ "ééé"
          = kept ++ "...[truncated " ++ toString rest.utf8ByteSize ++ " bytes]" :=
  ⟨by decide, (truncate_keeps_longest ⟨true, false, 3⟩ "ééé").2 (by decide)⟩

example : Policy.truncate ⟨true, false, 3⟩ "ééé" = "é...[truncated 4 bytes]" := by
  decide +kernel

end Log

end VirtualShell
