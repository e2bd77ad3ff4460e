import VirtualShell.Proofs.Path.Subtree

/-!
# The way to a path

A path is *on the way* to another if steps up lead from the other to it, none or more.
`selfAndAncestors` counts its steps up by the length of the path; as every step shortens the path,
the count never runs out (`go_eq_selfAndAncestors`), and the list holds exactly what is on the way
(`mem_selfAndAncestors_iff`).
-/

namespace VirtualShell.Path

open Relation (ReflTransGen)

variable {path up other target : String}

lemma length_lt_of_parent? (h : IsNormal path) (hup : parent? path = some up) :
    up.length < path.length := by
  have hnormal : IsNormal up := h.of_parent? hup
  exact length_lt_of_isBelow h hnormal
    ((isBelow_iff_parent h hnormal).mpr ⟨up, hup, Or.inl rfl⟩)

/-- A path is another or a directory above it. -/
def OnWay (target path : String) : Prop := ReflTransGen StepsUp target path

namespace OnWay

lemma refl : OnWay target target := ReflTransGen.refl

lemma isNormal (htarget : IsNormal target) (h : OnWay target path) : IsNormal path := by
  induction h with
  | refl => exact htarget
  | tail _ hstep ih => exact ih.of_parent? hstep

/-- From below: the path itself, or what is on the way to the directory above. -/
lemma iff_of_parent? (hup : parent? target = some up) :
    OnWay target path ↔ path = target ∨ OnWay up path := by
  have hstep : ∀ next, StepsUp target next ↔ up = next := by simp [StepsUp, hup]
  rw [OnWay, ReflTransGen.cases_head_iff]
  simp only [hstep, exists_eq_left', eq_comm (a := target), OnWay]

lemma of_parent? (hup : parent? target = some up) (h : OnWay up path) : OnWay target path :=
  (iff_of_parent? hup).mpr (Or.inr h)

lemma root_iff : OnWay "/" path ↔ path = "/" := by
  rw [OnWay, ReflTransGen.cases_head_iff]
  simp [StepsUp, eq_comm]

/-- On the way is at or above. -/
lemma iff_isBelow (htarget : IsNormal target) (hpath : IsNormal path) :
    OnWay target path ↔ path = target ∨ isBelow target path = true := by
  rw [OnWay, Relation.reflTransGen_iff_eq_or_transGen, isBelow_iff_transGen htarget hpath]

/-- A path is not on the way to the directory above it. -/
lemma not_of_parent? (htarget : IsNormal target) (hup : parent? target = some up) :
    ¬ OnWay up target := by
  have hnormal : IsNormal up := htarget.of_parent? hup
  have hshorter := length_lt_of_parent? htarget hup
  rw [iff_isBelow hnormal htarget]
  rintro (rfl | habove)
  · exact Nat.lt_irrefl _ hshorter
  · exact Nat.lt_asymm hshorter (length_lt_of_isBelow hnormal htarget habove)

end OnWay

/-! ## Going up a path -/

@[simp] lemma selfAndAncestors_root : selfAndAncestors "/" = ["/"] := by decide

lemma go_succ_of_parent? {n : Nat} (hup : parent? path = some up) :
    selfAndAncestors.go (n + 1) path = path :: selfAndAncestors.go n up := by
  rw [selfAndAncestors.go, hup]

/-- As many steps as a path has characters lead to the root, and further steps lead nowhere. -/
lemma go_eq_selfAndAncestors (h : IsNormal path) :
    ∀ n, path.length ≤ n → selfAndAncestors.go n path = selfAndAncestors path := by
  refine h.induction_up ?_ ?_
  · intro n hn
    obtain ⟨m, rfl⟩ : ∃ m, n = m + 1 := Nat.exists_eq_add_one.mpr hn
    rfl
  · intro path up hpath hup ih n hn
    have hshorter := length_lt_of_parent? hpath hup
    obtain ⟨k, hk⟩ : ∃ k, path.length = k + 1 := Nat.exists_eq_add_one.mpr (by omega)
    obtain ⟨m, rfl⟩ : ∃ m, n = m + 1 := Nat.exists_eq_add_one.mpr (by omega)
    rw [selfAndAncestors, hk, go_succ_of_parent? hup, go_succ_of_parent? hup, ih m (by omega),
      ih k (by omega)]

lemma selfAndAncestors_of_parent? (h : IsNormal path) (hup : parent? path = some up) :
    selfAndAncestors path = path :: selfAndAncestors up := by
  rw [← go_eq_selfAndAncestors h (path.length + 1) (Nat.le_succ _), go_succ_of_parent? hup,
    go_eq_selfAndAncestors (h.of_parent? hup) path.length
      (Nat.le_of_lt (length_lt_of_parent? h hup))]

/-- **A path and its ancestors are what is on the way to it.** -/
lemma mem_selfAndAncestors_iff (h : IsNormal target) :
    path ∈ selfAndAncestors target ↔ OnWay target path := by
  refine h.induction_up ?_ ?_
  · simp [OnWay.root_iff]
  · intro target up htarget hup ih
    rw [selfAndAncestors_of_parent? htarget hup, List.mem_cons, ih, OnWay.iff_of_parent? hup]

end VirtualShell.Path
