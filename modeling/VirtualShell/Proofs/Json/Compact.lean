import Mathlib.Data.Nat.Digits.Defs
import VirtualShell.Json.Value
import VirtualShell.Proofs.Text.Pieces

/-!
# JSON on one line

The compact text of a value holds no control character below the space (`plain_compact`), whatever
the texts and numbers in it are: strings are escaped, and numbers are digits, points and signs.  So
there is no end of a line in it (`not_mem_compact`).
-/

namespace VirtualShell.Json

/-- Characters none of which is a control character below the space. -/
def Plain (text : List Char) : Prop := ∀ c ∈ text, 0x20 ≤ c.toNat

-- character by character of the text, not of all characters that there are
instance (text : List Char) : Decidable (Plain text) :=
  List.decidableBAll (fun c : Char => 0x20 ≤ c.toNat) text

variable {text other : List Char} {c : Char}

lemma plain_append : Plain (text ++ other) ↔ Plain text ∧ Plain other := List.forall_mem_append

lemma plain_cons : Plain (c :: text) ↔ 0x20 ≤ c.toNat ∧ Plain text := List.forall_mem_cons

lemma Plain.of_subset (h : Plain text) (hsubset : other ⊆ text) : Plain other :=
  fun c hc => h c (hsubset hc)

lemma plain_replicate (n : Nat) (h : 0x20 ≤ c.toNat) : Plain (List.replicate n c) :=
  fun _ hc => List.eq_of_mem_replicate hc ▸ h

/-! ## Numbers -/

lemma plain_toString (n : Nat) : Plain (toString n).toList := by
  intro c hc
  have hdigit : c.isDigit = true := by
    refine Nat.isDigit_of_mem_toDigits (b := 10) (n := n) (by decide) (by decide) ?_
    simpa using hc
  simp only [Char.isDigit, Bool.and_eq_true, decide_eq_true_eq] at hdigit
  have hlow : 48 ≤ c.toNat := hdigit.1
  omega

lemma plain_exponentText (exponent : Int) : Plain (Decimal.exponentText exponent) := by
  rw [Decimal.exponentText, plain_cons]
  refine ⟨?_, plain_toString _⟩
  split <;> decide

lemma plain_scientificText (x : Decimal.Scientific) :
    Plain (Decimal.scientificText x).toList := by
  have hdigits := plain_toString x.digits
  have hzeros : ∀ n, Plain (List.replicate n '0') := fun n => plain_replicate n (by decide)
  have htake : ∀ n, Plain ((toString x.digits).toList.take n) :=
    fun n => hdigits.of_subset (List.take_subset _ _)
  have hdrop : ∀ n, Plain ((toString x.digits).toList.drop n) :=
    fun n => hdigits.of_subset (List.drop_subset _ _)
  simp only [Decimal.scientificText, String.toList_ofList]
  split
  · exact plain_append.mpr ⟨plain_append.mpr ⟨hdigits, hzeros _⟩, by decide⟩
  · split
    · exact plain_append.mpr ⟨htake _, plain_cons.mpr ⟨by decide, hdrop _⟩⟩
    · split
      · exact plain_cons.mpr ⟨by decide, plain_cons.mpr ⟨by decide, plain_append.mpr
          ⟨hzeros _, hdigits⟩⟩⟩
      · refine plain_append.mpr ⟨plain_append.mpr ⟨htake 1, ?_⟩,
          plain_cons.mpr ⟨by decide, plain_exponentText _⟩⟩
        split
        · exact List.forall_mem_nil _
        · exact plain_cons.mpr ⟨by decide, hdrop 1⟩

lemma plain_shortestText (x : Float) : Plain (Decimal.shortestText x).toList := by
  rw [Decimal.shortestText, String.toList_append, plain_append]
  constructor
  · split <;> decide
  · split
    · decide
    · exact plain_scientificText _

lemma plain_numberText (number : Number) : Plain number.text.toList := by
  cases number with
  | natural n => exact plain_toString n
  | negative n =>
      rw [Number.text, String.toList_append, plain_append]
      exact ⟨by decide, plain_toString n⟩
  | real x => exact plain_shortestText x

/-! ## Strings -/

lemma plain_digitChar : ∀ d < 16, 0x20 ≤ d.digitChar.toNat := by decide

lemma plain_escapeChar (c : Char) : Plain (escapeChar c) := by
  fun_cases escapeChar c
  case case8 hcontrol =>
    have hfirst := plain_digitChar (c.toNat / 16) (by omega)
    have hsecond := plain_digitChar (c.toNat % 16) (Nat.mod_lt _ (by decide))
    simp only [plain_cons, hfirst, hsecond]
    decide
  case case9 hprinted => exact plain_cons.mpr ⟨by omega, List.forall_mem_nil _⟩
  all_goals decide

lemma plain_quote (text : String) : Plain (quote text).toList := by
  rw [quote, String.toList_append, String.toList_append, String.toList_ofList, plain_append,
    plain_append]
  refine ⟨⟨by decide, fun c hc => ?_⟩, by decide⟩
  rw [String.toList_ofList] at hc
  obtain ⟨source, -, hc⟩ := List.mem_flatMap.mp hc
  exact plain_escapeChar source c hc

/-! ## Values -/

lemma plain_bracket {opening closing : String} {elements : List String}
    (hopening : Plain opening.toList) (hclosing : Plain closing.toList)
    (helements : ∀ element ∈ elements, Plain element.toList) :
    Plain (bracket opening closing elements).toList := by
  rw [bracket, String.toList_append, String.toList_append, plain_append, plain_append]
  refine ⟨⟨hopening, fun c hc => ?_⟩, hclosing⟩
  rw [String.toList_intercalate] at hc
  rcases Text.mem_of_mem_intercalate hc with hcomma | ⟨part, hpart, hin⟩
  · exact (by decide : Plain ",".toList) c hcomma
  · obtain ⟨element, helement, rfl⟩ := List.mem_map.mp hpart
    exact helements element helement c hin

mutual

/-- **The compact text of a value holds no control character below the space.** -/
theorem plain_compact : ∀ value : Value, Plain value.compact.toList
  | .null => by decide
  | .bool true => by decide
  | .bool false => by decide
  | .number number => plain_numberText number
  | .string text => plain_quote text
  | .array elements => plain_bracket (by decide) (by decide) (plain_compactElements elements)
  | .object members => plain_bracket (by decide) (by decide) (plain_compactMembers members)

lemma plain_compactElements : ∀ (elements : List Value),
    ∀ text ∈ Value.compactElements elements, Plain text.toList
  | [] => List.forall_mem_nil _
  | value :: rest => List.forall_mem_cons.mpr ⟨plain_compact value, plain_compactElements rest⟩

lemma plain_compactMembers : ∀ (members : List (String × Value)),
    ∀ text ∈ Value.compactMembers members, Plain text.toList
  | [] => List.forall_mem_nil _
  | (key, value) :: rest => by
      refine List.forall_mem_cons.mpr ⟨?_, plain_compactMembers rest⟩
      rw [String.toList_append, String.toList_append, plain_append, plain_append]
      exact ⟨⟨plain_quote key, by decide⟩, plain_compact value⟩

end

/-- So it is never broken. -/
lemma not_mem_compact {value : Value} (h : c.toNat < 0x20) : c ∉ value.compact.toList := by
  intro hmem
  have hprinted := plain_compact value c hmem
  omega

end VirtualShell.Json
