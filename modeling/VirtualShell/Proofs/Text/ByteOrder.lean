import Mathlib.Tactic.Common
import VirtualShell.Text.Bytes

/-!
# Texts in the order of their bytes

Texts are compared character by character, and a program that holds a text in its UTF-8 form
compares bytes.  The two come to the same (`bytesOf_lt_iff`): the forms of two characters are
ordered as the characters are, and they differ before either ends (`encode_append_lt`), so what
follows them has no part in it.
-/

namespace VirtualShell.Text

/-! ## The bytes of a text -/

/-- Collecting the bytes of an array from one of them on. -/
lemma toList_loop (bytes : ByteArray) (i : Nat) (seen : List UInt8) :
    ByteArray.toList.loop bytes i seen = seen.reverse ++ bytes.data.toList.drop i := by
  fun_induction ByteArray.toList.loop bytes i seen with
  | case1 i seen hi ih =>
      have hi' : i < bytes.data.toList.length := by simpa using hi
      have hget : bytes.get! i = bytes.data.toList[i] := by
        rw [Array.getElem_toList]
        exact getElem!_pos bytes.data i hi
      rw [ih, List.drop_eq_getElem_cons hi', hget]
      simp
  | case2 i seen hi =>
      have hend : bytes.data.toList.length ≤ i := by simpa using hi
      rw [List.drop_eq_nil_of_le hend, List.append_nil]

lemma bytesOf_eq_flatMap (text : String) :
    bytesOf text = text.toList.flatMap String.utf8EncodeChar := by
  rw [bytesOf, ByteArray.toList, toList_loop]
  simp [← String.utf8Encode_toList, List.utf8Encode]

/-! ## The order -/

lemma cons_byte_lt_iff {m n : Nat} (hm : m < 256) (hn : n < 256) {left right : List UInt8} :
    UInt8.ofNat m :: left < UInt8.ofNat n :: right ↔ m < n ∨ m = n ∧ left < right := by
  rw [List.cons_lt_cons_iff, UInt8.ofNat_lt_iff_lt hm hn, ← UInt8.toNat_inj,
    UInt8.toNat_ofNat_of_lt' hm, UInt8.toNat_ofNat_of_lt' hn]

/-- The forms of two characters decide, whatever comes behind them.  A form of more bytes begins
with a larger one; two forms of one length are numerals to the base 64 with marks added. -/
lemma encode_append_lt {c d : Char} (h : c < d) (left right : List UInt8) :
    String.utf8EncodeChar c ++ left < String.utf8EncodeChar d ++ right := by
  have hlt : c.val.toNat < d.val.toNat := h
  have hlast : d.val.toNat < 0x110000 := by
    rcases d.valid with hd | ⟨-, hd⟩
    · exact Nat.lt_trans hd (by decide)
    · exact hd
  have hsquare : ∀ n : Nat, n / 4096 = n / 64 / 64 :=
    fun n => (Nat.div_div_eq_div_mul n 64 64).symm
  have hcube : ∀ n : Nat, n / 262144 = n / 64 / 64 / 64 :=
    fun n => by simp only [Nat.div_div_eq_div_mul]
  fun_cases String.utf8EncodeChar c <;> fun_cases String.utf8EncodeChar d <;>
    simp (disch := omega) only [List.cons_append, List.nil_append, cons_byte_lt_iff, hsquare,
      hcube] <;>
    omega

lemma flatMap_encode_lt {left right : List Char} (h : left < right) :
    left.flatMap String.utf8EncodeChar < right.flatMap String.utf8EncodeChar := by
  induction h with
  | nil =>
      rw [List.flatMap_nil, List.flatMap_cons]
      obtain ⟨byte, rest, hbytes⟩ := List.exists_cons_of_ne_nil String.utf8EncodeChar_ne_nil
      rw [hbytes]
      exact List.nil_lt_cons _ _
  | rel h => exact encode_append_lt h _ _
  | cons _ ih => exact List.append_left_lt ih

/-- **Texts are ordered as their bytes are.** -/
theorem bytesOf_lt_iff {left right : String} : bytesOf left < bytesOf right ↔ left < right := by
  simp only [bytesOf_eq_flatMap]
  refine ⟨fun h => ?_, fun h => flatMap_encode_lt h⟩
  by_contra hnot
  have hback : ¬ right < left := fun hlt => List.lt_asymm h (flatMap_encode_lt hlt)
  obtain rfl : left = right := String.le_antisymm hback hnot
  exact List.lt_irrefl _ h

end VirtualShell.Text
