import Mathlib.Data.List.DropRight
import Mathlib.Tactic.Common
import VirtualShell.Json.Reader

/-!
# Reading back what was written

The indented text of a value is read back as that value (`parse_indented`), whatever the strings in
it hold, provided that arrays and objects are not nested deeper than the reader follows them and
that the members of objects are in the order of their keys (`Readable`), as an object of members
keeps them (`Readable.ofMembers`).  Values with numbers in them are left out.

* `Takes` — a reader takes a text off the front of whatever stands behind it.
* `takes_readString` — quotation marks, backslashes and control characters come back from their
  escapes.
* `readElements_written`, `readMembers_written` — a list is taken if its parts are.
* `takes_indentedAt` — values inside values, by induction over the nesting.
-/

namespace VirtualShell.Json

variable {α : Type} {text other gap inner outer rest : List Char} {depth bound : Nat}

/-- A reader takes a text off the front of any other, and answers a value for it. -/
def Takes (read : List Char → Except Fault (α × List Char)) (value : α) (text : List Char) : Prop :=
  ∀ rest, read (text ++ rest) = .ok (value, rest)

/-! ## Blanks -/

lemma skipBlanks_append (hgap : skipBlanks gap = []) (text : List Char) :
    skipBlanks (gap ++ text) = skipBlanks text := by
  unfold skipBlanks at hgap ⊢
  rw [List.dropWhile_append, hgap]
  rfl

lemma skipBlanks_skipBlanks (text : List Char) : skipBlanks (skipBlanks text) = skipBlanks text :=
  List.dropWhile_idempotent _ text

/-- Blanks in front of a value do not matter. -/
lemma readValue_congr (h : skipBlanks text = skipBlanks other) :
    readValue depth text = readValue depth other := by
  rw [readValue.eq_def, readValue.eq_def, h]

lemma Takes.indented {value : Value} (h : Takes (readValue depth) value text)
    (hgap : skipBlanks gap = []) : Takes (readValue depth) value (gap ++ text) := by
  intro rest
  rw [List.append_assoc, readValue_congr (skipBlanks_append hgap _), h rest]

/-! ## Strings -/

/-- The four digits that write a control character. -/
lemma hexNumber?_control : ∀ n < 0x20,
    Text.hexNumber? ['0', '0', (n / 16).digitChar, (n % 16).digitChar] = some n := by decide

lemma readUnicode_control {c : Char} (h : c.toNat < 0x20) (rest : List Char) :
    readUnicode ('0' :: '0' :: (c.toNat / 16).digitChar :: (c.toNat % 16).digitChar :: rest)
      = .ok (c, 4) := by
  have hhex : readHex ('0' :: '0' :: (c.toNat / 16).digitChar :: (c.toNat % 16).digitChar :: rest)
      = .ok c.toNat := by
    have hzero := '0'.utf8Size_pos
    have hfirst := (c.toNat / 16).digitChar.utf8Size_pos
    have hsecond := (c.toNat % 16).digitChar.utf8Size_pos
    rw [readHex, if_neg]
    · simp only [List.take_succ_cons, List.take_zero, hexNumber?_control c.toNat h]
    · simp only [Text.byteLength, List.foldr_cons]
      omega
  have htrailing : isTrailing c.toNat = false := by
    simp only [isTrailing, Bool.and_eq_false_iff, decide_eq_false_iff_not]
    omega
  have hleading : isLeading c.toNat = false := by
    simp only [isLeading, Bool.and_eq_false_iff, decide_eq_false_iff_not]
    omega
  rw [readUnicode, hhex]
  simp [bind, Except.bind, pure, Except.pure, htrailing, hleading]

/-- The reader of strings undoes the escape of any character. -/
lemma readChars_escapeChar (c : Char) (text : List Char) :
    readChars 0 (escapeChar c ++ text)
      = (readChars 0 text).map fun read => (c :: read.1, read.2) := by
  fun_cases escapeChar c
  case case8 hcontrol =>
    have hescape : readEscape ('u' :: '0' :: '0' :: (c.toNat / 16).digitChar
        :: (c.toNat % 16).digitChar :: text) = .ok (c, 5) := by
      rw [readEscape, readUnicode_control hcontrol]
      rfl
    simp only [List.cons_append, List.nil_append]
    rw [readChars, if_neg (by decide), if_pos rfl, hescape]
    rfl
  case case9 hquote hslash _ _ _ _ _ hprinted =>
    rw [List.singleton_append, readChars, if_neg hquote, if_neg hslash, if_neg hprinted]
    rfl
  all_goals rfl

lemma takes_readChars (text : List Char) :
    Takes (readChars 0) text (text.flatMap escapeChar ++ ['"']) := by
  intro rest
  induction text with
  | nil => rfl
  | cons c text ih =>
      rw [List.flatMap_cons, List.append_assoc, List.append_assoc, readChars_escapeChar,
        ← List.append_assoc, ih]
      rfl

lemma takes_readString (text : String) :
    Takes readString text (text.toList.flatMap escapeChar ++ ['"']) := by
  intro rest
  rw [readString, takes_readChars]
  simp [Except.map]

lemma toList_quote (text : String) :
    (quote text).toList = '"' :: (text.toList.flatMap escapeChar ++ ['"']) := by
  simp [quote]

lemma takes_string (text : String) :
    Takes (readValue depth) (.string text) (quote text).toList := by
  intro rest
  have hread := takes_readString text rest
  rw [toList_quote, readValue.eq_def]
  exact congrArg (Except.map fun read => (Value.string read.1, read.2)) hread

/-! ## Commas -/

/-- Texts with commas between them: all but the first stand behind one. -/
lemma intercalate_comma (first : List Char) (more : List (List Char)) :
    [','].intercalate (first :: more) = first ++ more.flatMap (',' :: ·) := by
  induction more generalizing first with
  | nil => rw [List.intercalate_singleton, List.flatMap_nil, List.append_nil]
  | cons next more ih =>
      rw [List.intercalate_cons_cons, ih, List.flatMap_cons, List.append_assoc]
      rfl

lemma length_le_intercalate (texts : List (List Char)) :
    texts.length ≤ ([','].intercalate texts).length + 1 := by
  cases texts with
  | nil => exact Nat.zero_le _
  | cons first more =>
      have hmore : more.length ≤ (more.flatMap (',' :: ·)).length := by
        induction more with
        | nil => exact Nat.zero_le _
        | cons next more ih =>
            rw [List.flatMap_cons, List.length_append, List.length_cons, List.length_cons]
            omega
      rw [intercalate_comma, List.length_append, List.length_cons]
      omega

/-- With the closing mark there are as many characters as texts, which is what bounds the reader. -/
lemma length_lt_of_intercalate (texts : List (List Char)) (outer rest : List Char) (c : Char) :
    texts.length < ([','].intercalate texts ++ (outer ++ c :: rest)).length + 1 := by
  have hlength := length_le_intercalate texts
  rw [List.length_append, List.length_append, List.length_cons]
  omega

/-! ## Arrays -/

/-- A value does not begin like the end of an array. -/
lemma exists_cons_of_readValue {read : Value × List Char} (h : readValue depth text = .ok read) :
    ∃ c left, skipBlanks text = c :: left ∧ c ≠ ']' := by
  rw [readValue.eq_def] at h
  rcases hskip : skipBlanks text with _ | ⟨c, left⟩
  · rw [hskip] at h
    cases h
  · refine ⟨c, left, rfl, ?_⟩
    rintro rfl
    rw [hskip] at h
    cases h

/-- Where there is a value there is an element; all but the first stand behind a comma. -/
lemma nextElement_of_readValue {read : Value × List Char} (first : Bool)
    (h : readValue depth text = .ok read) :
    nextElement first (bif first then text else ',' :: text) = .ok (true, skipBlanks text) := by
  obtain ⟨c, left, hskip, hc⟩ := exists_cons_of_readValue h
  cases first with
  | true =>
      rw [cond_true, nextElement, hskip]
      split <;> simp_all
  | false =>
      have hcomma : skipBlanks (',' :: text) = ',' :: text := rfl
      rw [cond_false, nextElement, hcomma]
      split
      case h_3 comma rest _ hcut =>
        obtain ⟨rfl, rfl⟩ := List.cons.inj hcut
        rw [if_neg (by decide), if_pos rfl, hskip]
        split <;> simp_all
      all_goals simp_all

lemma readElements_step {value : Value} (first : Bool) (bound : Nat)
    (h : readValue depth text = .ok (value, rest)) :
    readElements (readValue depth) (bound + 1) first (bif first then text else ',' :: text)
      = (readElements (readValue depth) bound false rest).map
          fun read => (value :: read.1, read.2) := by
  have hskipped : readValue depth (skipBlanks text) = .ok (value, rest) :=
    (readValue_congr (skipBlanks_skipBlanks text)).trans h
  rw [readElements, nextElement_of_readValue first h]
  simp only [bind, Except.bind, hskipped]
  rfl

lemma readElements_end (first : Bool) (bound : Nat) (houter : skipBlanks outer = [])
    (rest : List Char) :
    readElements (readValue depth) (bound + 1) first (outer ++ ']' :: rest) = .ok ([], rest) := by
  have hend : nextElement first (outer ++ ']' :: rest) = .ok (false, rest) := by
    rw [nextElement, skipBlanks_append houter]
    rfl
  rw [readElements, hend]
  rfl

section

variable {written : Value → List Char} {elements : List Value}

/-- Elements behind the first one, up to the end of the array. -/
lemma readElements_more
    (h : ∀ element ∈ elements, Takes (readValue depth) element (written element))
    (houter : skipBlanks outer = []) (hbound : elements.length < bound) (rest : List Char) :
    readElements (readValue depth) bound false
        (elements.flatMap (fun element => ',' :: written element) ++ (outer ++ ']' :: rest))
      = .ok (elements, rest) := by
  induction elements generalizing bound with
  | nil =>
      obtain ⟨bound, rfl⟩ := Nat.exists_eq_add_one_of_ne_zero (Nat.ne_of_gt hbound)
      exact readElements_end false bound houter rest
  | cons element more ih =>
      obtain ⟨bound, rfl⟩ := Nat.exists_eq_add_one_of_ne_zero (Nat.ne_zero_of_lt hbound)
      rw [List.forall_mem_cons] at h
      rw [List.flatMap_cons, List.append_assoc]
      refine (readElements_step false bound (h.1 _)).trans ?_
      rw [ih h.2 (Nat.lt_of_succ_lt_succ hbound)]
      rfl

/-- **The elements of an array are taken one by one**, with commas between them. -/
theorem readElements_written
    (h : ∀ element ∈ elements, Takes (readValue depth) element (written element))
    (houter : skipBlanks outer = []) (hbound : elements.length < bound) (rest : List Char) :
    readElements (readValue depth) bound true
        ([','].intercalate (elements.map written) ++ (outer ++ ']' :: rest))
      = .ok (elements, rest) := by
  obtain ⟨bound, rfl⟩ := Nat.exists_eq_add_one_of_ne_zero (Nat.ne_zero_of_lt hbound)
  cases elements with
  | nil => exact readElements_end true bound houter rest
  | cons element more =>
      rw [List.forall_mem_cons] at h
      rw [List.map_cons, intercalate_comma, List.flatMap_map, List.append_assoc]
      refine (readElements_step true bound (h.1 _)).trans ?_
      rw [readElements_more h.2 houter (Nat.lt_of_succ_lt_succ hbound)]
      rfl

lemma readValue_array (depth : Nat) (text : List Char) :
    readValue (depth + 1) ('[' :: text)
      = (readElements (readValue depth) (text.length + 1) true text).map
          fun read => (.array read.1, read.2) := by
  rw [readValue.eq_def]
  rfl

lemma takes_array (h : ∀ element ∈ elements, Takes (readValue depth) element (written element))
    (hinner : skipBlanks inner = []) (houter : skipBlanks outer = []) :
    Takes (readValue (depth + 1)) (.array elements)
      ('[' :: ([','].intercalate (elements.map fun element => inner ++ written element)
        ++ (outer ++ [']']))) := by
  intro rest
  have hindented : ∀ element ∈ elements,
      Takes (readValue depth) element (inner ++ written element) :=
    fun element helement => (h element helement).indented hinner
  have hbound := length_lt_of_intercalate (elements.map fun element => inner ++ written element)
    outer rest ']'
  rw [List.length_map] at hbound
  rw [List.cons_append, List.append_assoc, List.append_assoc, List.singleton_append,
    readValue_array, readElements_written hindented houter hbound]
  rfl

end

/-! ## Members in order -/

/-- Members in the order of their keys, each key once. -/
def Increasing (members : List (String × Value)) : Prop := members.Pairwise (·.1 < ·.1)

section

variable {members : List (String × Value)} {key : String} {value : Value}

lemma mem_insertMember {member : String × Value}
    (h : member ∈ Value.insertMember key value members) :
    member = (key, value) ∨ member ∈ members := by
  induction members with
  | nil => exact Or.inl (List.mem_singleton.mp h)
  | cons first rest ih =>
      rw [Value.insertMember] at h
      split at h
      · exact List.mem_cons.mp h
      · split at h
        · exact (List.mem_cons.mp h).imp_right (List.mem_cons_of_mem first)
        · rcases List.mem_cons.mp h with rfl | hlater
          · exact Or.inr List.mem_cons_self
          · exact (ih hlater).imp_right (List.mem_cons_of_mem first)

lemma Increasing.insertMember (h : Increasing members) (key : String) (value : Value) :
    Increasing (Value.insertMember key value members) := by
  induction members with
  | nil => exact List.pairwise_singleton _ _
  | cons first rest ih =>
      obtain ⟨hfirst, hrest⟩ := List.pairwise_cons.mp h
      rw [Value.insertMember]
      split
      case isTrue hlt =>
        refine List.pairwise_cons.mpr ⟨List.forall_mem_cons.mpr ⟨hlt, fun member hmember => ?_⟩, h⟩
        exact String.lt_trans hlt (hfirst member hmember)
      case isFalse hle =>
        split
        case isTrue heq => exact List.pairwise_cons.mpr ⟨heq ▸ hfirst, hrest⟩
        case isFalse hne =>
          refine List.pairwise_cons.mpr ⟨fun member hmember => ?_, ih hrest⟩
          rcases mem_insertMember hmember with rfl | hin
          · exact Std.lt_of_le_of_ne (String.not_lt.mp hle) (Ne.symm hne)
          · exact hfirst member hin

/-- An object keeps its members in order, and has none but those that it was made of. -/
lemma exists_ofMembers (members : List (String × Value)) :
    ∃ placed, Value.ofMembers members = .object placed ∧ Increasing placed
      ∧ placed ⊆ members := by
  induction members using List.reverseRecOn with
  | nil => exact ⟨[], rfl, List.Pairwise.nil, List.Subset.refl _⟩
  | append_singleton front last ih =>
      obtain ⟨placed, hplaced, hincreasing, hsubset⟩ := ih
      refine ⟨Value.insertMember last.1 last.2 placed, ?_, hincreasing.insertMember _ _,
        fun member hmember => ?_⟩
      · rw [Value.ofMembers] at hplaced ⊢
        rw [List.foldl_append, Value.object.inj hplaced]
        rfl
      · rcases mem_insertMember hmember with rfl | hin
        · exact List.mem_append_right _ (List.mem_singleton_self _)
        · exact List.mem_append_left _ (hsubset hin)

lemma insertMember_of_forall_lt (value : Value) (h : ∀ member ∈ members, member.1 < key) :
    Value.insertMember key value members = members ++ [(key, value)] := by
  induction members with
  | nil => rfl
  | cons first rest ih =>
      rw [List.forall_mem_cons] at h
      have hne : key ≠ first.1 := fun heq => String.lt_irrefl key (heq ▸ h.1)
      rw [Value.insertMember, if_neg (String.lt_asymm h.1), if_neg hne, ih h.2]
      rfl

/-- Members that are in order stay as they are; by induction from their end, where each is the
largest so far. -/
lemma ofMembers_of_increasing (h : Increasing members) :
    Value.ofMembers members = .object members := by
  induction members using List.reverseRecOn with
  | nil => rfl
  | append_singleton front last ih =>
      obtain ⟨hfront, -, hbelow⟩ := List.pairwise_append.mp h
      have hplaced := ih hfront
      rw [Value.ofMembers] at hplaced ⊢
      rw [List.foldl_append, Value.object.inj hplaced, List.foldl_cons, List.foldl_nil,
        insertMember_of_forall_lt]
      exact fun member hmember => hbelow member hmember last List.mem_cons_self

lemma find?_insertMember (key : String) (value : Value) (members : List (String × Value))
    (wanted : String) :
    (Value.insertMember key value members).find? (fun member => member.1 = wanted)
      = if key = wanted then some (key, value)
        else members.find? fun member => member.1 = wanted := by
  induction members with
  | nil =>
      rw [Value.insertMember, List.find?_cons]
      split <;> simp_all
  | cons first rest ih =>
      rw [Value.insertMember]
      split
      · rw [List.find?_cons]
        split <;> simp_all
      · split
        · rw [List.find?_cons, List.find?_cons]
          split <;> simp_all
        · rw [List.find?_cons, ih, List.find?_cons]
          split <;> simp_all

/-- Of the members with one key the last counts. -/
lemma member?_ofMembers (members : List (String × Value)) (key : String) :
    (Value.ofMembers members).member? key
      = (members.reverse.find? fun member => member.1 = key).map Prod.snd := by
  induction members using List.reverseRecOn with
  | nil => rfl
  | append_singleton front last ih =>
      rw [Value.ofMembers, Value.member?] at ih ⊢
      rw [List.foldl_append, List.foldl_cons, List.foldl_nil, find?_insertMember,
        List.reverse_append, List.reverse_singleton, List.singleton_append, List.find?_cons]
      by_cases hkey : last.1 = key
      · simp [hkey]
      · simp [hkey, ih]

end

/-! ## Objects -/

/-- How a member is written: its key, a colon and its value. -/
def memberChars (written : Value → List Char) (member : String × Value) : List Char :=
  '"' :: (member.1.toList.flatMap escapeChar ++ ['"'] ++ ':' :: written member.2)

/-- Where there is a quotation mark there is a key; all but the first stand behind a comma. -/
lemma nextKey_of_gap (first : Bool) (hinner : skipBlanks inner = []) (rest : List Char) :
    nextKey first (bif first then inner ++ '"' :: rest else ',' :: (inner ++ '"' :: rest))
      = .ok (true, rest) := by
  have hquote : skipBlanks (inner ++ '"' :: rest) = '"' :: rest := skipBlanks_append hinner _
  cases first with
  | true =>
      rw [cond_true, nextKey, hquote]
      rfl
  | false =>
      have hcomma : skipBlanks (',' :: (inner ++ '"' :: rest)) = ',' :: (inner ++ '"' :: rest) :=
        rfl
      rw [cond_false, nextKey, hcomma]
      split
      case h_3 comma more _ hcut =>
        obtain ⟨rfl, rfl⟩ := List.cons.inj hcut
        rw [if_neg (by decide), if_pos rfl, hquote]
        rfl
      all_goals simp_all

section

variable {written : Value → List Char} {members : List (String × Value)}

lemma readMembers_step {member : String × Value} (first : Bool) (bound : Nat)
    (h : Takes (readValue depth) member.2 (written member.2)) (hinner : skipBlanks inner = [])
    (rest : List Char) :
    readMembers (readValue depth) (bound + 1) first
        (bif first then inner ++ (memberChars written member ++ rest)
          else ',' :: (inner ++ (memberChars written member ++ rest)))
      = (readMembers (readValue depth) bound false rest).map
          fun read => (member :: read.1, read.2) := by
  have hkey : readString (member.1.toList.flatMap escapeChar ++ ['"'] ++ ':' :: written member.2
      ++ rest) = .ok (member.1, ':' :: (written member.2 ++ rest)) := by
    rw [List.append_assoc]
    exact takes_readString _ _
  have hcolon : readColon (':' :: (written member.2 ++ rest)) = .ok (written member.2 ++ rest) :=
    rfl
  rw [readMembers, memberChars, List.cons_append, nextKey_of_gap first hinner]
  simp only [bind, Except.bind, hkey, hcolon, h rest]
  rfl

lemma readMembers_end (first : Bool) (bound : Nat) (houter : skipBlanks outer = [])
    (rest : List Char) :
    readMembers (readValue depth) (bound + 1) first (outer ++ '\x7d' :: rest)
      = .ok ([], '\x7d' :: rest) := by
  have hend : nextKey first (outer ++ '\x7d' :: rest) = .ok (false, '\x7d' :: rest) := by
    rw [nextKey, skipBlanks_append houter]
    rfl
  rw [readMembers, hend]
  rfl

/-- Members behind the first one, up to the end of the object. -/
lemma readMembers_more
    (h : ∀ member ∈ members, Takes (readValue depth) member.2 (written member.2))
    (hinner : skipBlanks inner = []) (houter : skipBlanks outer = [])
    (hbound : members.length < bound) (rest : List Char) :
    readMembers (readValue depth) bound false
        (members.flatMap (fun member => ',' :: (inner ++ memberChars written member))
          ++ (outer ++ '\x7d' :: rest))
      = .ok (members, '\x7d' :: rest) := by
  induction members generalizing bound with
  | nil =>
      obtain ⟨bound, rfl⟩ := Nat.exists_eq_add_one_of_ne_zero (Nat.ne_of_gt hbound)
      exact readMembers_end false bound houter rest
  | cons member more ih =>
      obtain ⟨bound, rfl⟩ := Nat.exists_eq_add_one_of_ne_zero (Nat.ne_zero_of_lt hbound)
      rw [List.forall_mem_cons] at h
      rw [List.flatMap_cons, List.append_assoc, List.cons_append, List.append_assoc]
      refine (readMembers_step false bound h.1 hinner _).trans ?_
      rw [ih h.2 (Nat.lt_of_succ_lt_succ hbound)]
      rfl

/-- **The members of an object are taken one by one**, with commas between them. -/
theorem readMembers_written
    (h : ∀ member ∈ members, Takes (readValue depth) member.2 (written member.2))
    (hinner : skipBlanks inner = []) (houter : skipBlanks outer = [])
    (hbound : members.length < bound) (rest : List Char) :
    readMembers (readValue depth) bound true
        ([','].intercalate (members.map fun member => inner ++ memberChars written member)
          ++ (outer ++ '\x7d' :: rest))
      = .ok (members, '\x7d' :: rest) := by
  obtain ⟨bound, rfl⟩ := Nat.exists_eq_add_one_of_ne_zero (Nat.ne_zero_of_lt hbound)
  cases members with
  | nil => exact readMembers_end true bound houter rest
  | cons member more =>
      rw [List.forall_mem_cons] at h
      rw [List.map_cons, intercalate_comma, List.flatMap_map, List.append_assoc,
        List.append_assoc]
      refine (readMembers_step true bound h.1 hinner _).trans ?_
      rw [readMembers_more h.2 hinner houter (Nat.lt_of_succ_lt_succ hbound)]
      rfl

lemma readValue_object (depth : Nat) (text : List Char) :
    readValue (depth + 1) ('\x7b' :: text)
      = (readMembers (readValue depth) (text.length + 1) true text).map
          fun read => (.ofMembers read.1, read.2.drop 1) := by
  rw [readValue.eq_def]
  rfl

lemma takes_object (hordered : Increasing members)
    (h : ∀ member ∈ members, Takes (readValue depth) member.2 (written member.2))
    (hinner : skipBlanks inner = []) (houter : skipBlanks outer = []) :
    Takes (readValue (depth + 1)) (.object members)
      ('\x7b' :: ([','].intercalate (members.map fun member => inner ++ memberChars written member)
        ++ (outer ++ ['\x7d']))) := by
  intro rest
  have hbound := length_lt_of_intercalate
    (members.map fun member => inner ++ memberChars written member) outer rest '\x7d'
  rw [List.length_map] at hbound
  rw [List.cons_append, List.append_assoc, List.append_assoc, List.singleton_append,
    readValue_object, readMembers_written h hinner houter hbound]
  exact congrArg (fun value => Except.ok (value, rest)) (ofMembers_of_increasing hordered)

end

/-! ## Values -/

/-- Values that are read back: at most so deep, and with the members of objects in order. -/
inductive Readable : Nat → Value → Prop where
  | null {depth : Nat} : Readable depth .null
  | bool {depth : Nat} (value : Bool) : Readable depth (.bool value)
  | string {depth : Nat} (text : String) : Readable depth (.string text)
  | array {depth : Nat} {elements : List Value}
      (h : ∀ element ∈ elements, Readable depth element) : Readable (depth + 1) (.array elements)
  | object {depth : Nat} {members : List (String × Value)} (hordered : Increasing members)
      (h : ∀ member ∈ members, Readable depth member.2) : Readable (depth + 1) (.object members)

lemma Readable.ofMembers {members : List (String × Value)}
    (h : ∀ member ∈ members, Readable depth member.2) :
    Readable (depth + 1) (.ofMembers members) := by
  obtain ⟨placed, hplaced, hincreasing, hsubset⟩ := exists_ofMembers members
  exact hplaced ▸ .object hincreasing fun member hmember => h member (hsubset hmember)

/-- The end of a line and the blanks in front of the next one. -/
def indent (level : Nat) : List Char := '\n' :: List.replicate (2 * level) ' '

lemma skipBlanks_indent (level : Nat) : skipBlanks (indent level) = [] := by
  have hspaces : ∀ n, skipBlanks (List.replicate n ' ') = [] := by
    intro n
    induction n with
    | zero => rfl
    | succ n ih => exact ih
  exact hspaces _

/-- The closing mark stands on a line of its own, or right behind the opening one if there is
nothing between them. -/
lemma toList_bracketLines (level : Nat) (opening closing : String) (texts : List String) :
    ∃ outer, skipBlanks outer = [] ∧
      (bracketLines level opening closing texts).toList
        = opening.toList ++ ([','].intercalate (texts.map fun text =>
            indent (level + 1) ++ text.toList) ++ (outer ++ closing.toList)) := by
  rcases List.eq_nil_or_concat texts with rfl | ⟨front, last, rfl⟩
  · exact ⟨[], rfl, by simp [bracketLines]⟩
  · exact ⟨indent level, skipBlanks_indent level,
      by simp [bracketLines, indent, Function.comp_def]⟩

lemma indentedElements_eq_map (level : Nat) (elements : List Value) :
    Value.indentedElements level elements = elements.map (Value.indentedAt level) := by
  induction elements with
  | nil => rfl
  | cons element rest ih =>
      rw [Value.indentedElements, ih]
      rfl

lemma indentedMembers_eq_map (level : Nat) (members : List (String × Value)) :
    Value.indentedMembers level members
      = members.map fun member => quote member.1 ++ ": " ++ member.2.indentedAt level := by
  induction members with
  | nil => rfl
  | cons member rest ih =>
      rw [Value.indentedMembers, ih]
      rfl

lemma toList_member (level : Nat) (member : String × Value) :
    (quote member.1 ++ ": " ++ member.2.indentedAt level).toList
      = memberChars (fun value => ' ' :: (value.indentedAt level).toList) member := by
  simp [memberChars, toList_quote]

/-- The text of a value is taken at every level at which it can stand. -/
theorem takes_indentedAt {value : Value} (h : Readable depth value) :
    ∀ level, Takes (readValue depth) value (value.indentedAt level).toList := by
  induction h with
  | null =>
      intro level rest
      simp [Value.indentedAt, Value.atomText, readValue.eq_def, skipBlanks, readWord]
  | bool value =>
      intro level rest
      cases value <;>
        simp [Value.indentedAt, Value.atomText, readValue.eq_def, skipBlanks, readWord]
  | string text =>
      intro level
      rw [Value.indentedAt.eq_def]
      exact takes_string text
  | array h ih =>
      intro level
      rw [Value.indentedAt, indentedElements_eq_map]
      obtain ⟨outer, houter, htext⟩ := toList_bracketLines level "[" "]" _
      rw [htext, List.map_map]
      exact takes_array (fun element helement => ih element helement (level + 1))
        (skipBlanks_indent (level + 1)) houter
  | object hordered h ih =>
      intro level
      rw [Value.indentedAt, indentedMembers_eq_map]
      obtain ⟨outer, houter, htext⟩ := toList_bracketLines level "\x7b" "\x7d" _
      rw [htext, List.map_map]
      simp only [Function.comp_def, toList_member]
      -- the blank behind the colon is read with the value
      have hblank : skipBlanks [' '] = [] := rfl
      exact takes_object hordered
        (fun member hmember => (ih member hmember (level + 1)).indented hblank)
        (skipBlanks_indent (level + 1)) houter

/-- **The indented text of a value is read back as the value.** -/
theorem parse_indented {value : Value} (h : Readable maxDepth value) :
    parse value.indented = .ok value := by
  have hread := takes_indentedAt h 0 []
  rw [List.append_nil] at hread
  rw [parse, Value.indented, hread]
  rfl

end VirtualShell.Json
