import Mathlib.Data.List.Induction
import Mathlib.Logic.Relation
import VirtualShell.Proofs.Path.Tree

/-!
# Subtrees and their images

`isBelow` compares texts and `rebase` exchanges the beginning of one for another; neither looks at
the tree.  Here both are led back to it.

**Below is above, step by step.**  A path lies below another exactly if going from parent to parent
leads from the one to the other (`isBelow_iff_transGen`).  The proof goes up from the path
(`IsNormal.induction_up`).

**Moving is an isomorphism.**  `rebase` maps the subtree at one path onto the subtree at another,
with the opposite move for its inverse (`rebase_rebase`), and it keeps parents and last segments.
`rebase_isomorphism` states this for all paths in normal form, the root and nested subtrees
included.
-/

namespace VirtualShell.Path

open Relation (TransGen)

variable {path up other source target : String}

/-! ## Going up -/

/-- One step up. -/
def StepsUp (path up : String) : Prop := parent? path = some up

/-- What holds of the root, and of every path whose parent it holds of, holds of all paths in
normal form. -/
@[elab_as_elim]
theorem IsNormal.induction_up {motive : String → Prop} (h : IsNormal path) (root : motive "/")
    (step : ∀ path up, IsNormal path → parent? path = some up → motive up → motive path) :
    motive path := by
  obtain ⟨segments, hsegments, rfl⟩ := isNormal_iff_spell.mp h
  clear h
  induction segments using List.reverseRecOn with
  | nil => exact root
  | append_singleton front last ih =>
      exact step _ _ (isNormal_spell hsegments) (parent?_spell_concat hsegments)
        (ih (areSegments_append.mp hsegments).1)

lemma transGen_stepsUp_iff (hup : parent? path = some up) :
    TransGen StepsUp path other ↔ up = other ∨ TransGen StepsUp up other := by
  have hstep : ∀ next, StepsUp path next ↔ up = next := by simp [StepsUp, hup]
  rw [Relation.TransGen.head'_iff]
  simp only [hstep, exists_eq_left']
  rw [Relation.reflTransGen_iff_eq_or_transGen, eq_comm]

/-- **A path lies below another exactly if steps up lead there**, one or more. -/
theorem isBelow_iff_transGen (h : IsNormal path) (hother : IsNormal other) :
    isBelow path other = true ↔ TransGen StepsUp path other := by
  refine h.induction_up ?_ ?_
  · rw [isBelow_root_left hother, Relation.TransGen.head'_iff]
    simp [StepsUp]
  · intro path up hpath hup ih
    rw [isBelow_iff_parent hpath hother, transGen_stepsUp_iff hup, ← ih]
    simp [hup]

lemma isBelow_trans (h : IsNormal path) (hup : IsNormal up) (hother : IsNormal other)
    (hbelow : isBelow path up = true) (habove : isBelow up other = true) :
    isBelow path other = true := by
  rw [isBelow_iff_transGen h hother]
  exact ((isBelow_iff_transGen h hup).mp hbelow).trans ((isBelow_iff_transGen hup hother).mp habove)

/-- The text of a path is a proper beginning of what lies below it, so it comes first. -/
lemma lt_of_isBelow (h : IsNormal path) (hother : IsNormal other)
    (hbelow : isBelow path other = true) : other < path := by
  obtain ⟨right, hright, rfl⟩ := isNormal_iff_spell.mp hother
  obtain ⟨left, hleft, rfl⟩ := isNormal_iff_spell.mp h
  obtain ⟨rest, hrest, rfl⟩ := (isBelow_spell_iff hleft hright).mp hbelow
  obtain ⟨last, more, rfl⟩ := List.exists_cons_of_ne_nil hrest
  have hproper (front : List Char) (head : Char) (tail : List Char) :
      front ++ [] < front ++ head :: tail := List.append_left_lt (List.nil_lt_cons head tail)
  rw [String.lt_iff, toList_spell, toList_spell, ofSegments_append right hrest]
  by_cases hnil : right = []
  · subst hnil
    obtain ⟨head, tail, rfl⟩ := List.exists_cons_of_ne_nil (hleft last (by simp)).1
    exact hproper ['/'] head _
  · rw [ofSegments_eq_slashed hnil, ← List.append_nil (slashed right), List.append_assoc]
    exact hproper (slashed right) '/' _

/-- What is in the same directory lies neither above nor below: a step down from one of the two
would lead past the directory. -/
lemma not_isBelow_sibling (h : IsNormal path) (hother : IsNormal other)
    (hup : parent? path = some up) (hsame : parent? other = some up) :
    isBelow path other = false := by
  have hdir : IsNormal up := h.of_parent? hup
  have hunder : isBelow other up = true :=
    (isBelow_iff_parent hother hdir).mpr ⟨up, hsame, Or.inl rfl⟩
  have hshort := length_lt_of_isBelow hother hdir hunder
  rw [Bool.eq_false_iff, Ne, isBelow_iff_parent h hother]
  simp only [hup, Option.some_inj, exists_eq_left']
  rintro (rfl | hbelow)
  · exact Nat.lt_irrefl _ hshort
  · exact Nat.lt_asymm hshort (length_lt_of_isBelow hdir hother hbelow)

/-! ## Moving there and back -/

/-- The opposite move leads back. -/
lemma rebase_rebase (h : IsNormal path) (hsource : IsNormal source) (htarget : IsNormal target)
    (hmoves : path = source ∨ isBelow path source = true) :
    rebase (rebase path source target) target source = path := by
  obtain ⟨here, there, rest, hhere, hthere, rfl, rfl, rfl, hrebase⟩ :=
    exists_rebase h hsource htarget hmoves
  rw [hrebase, rebase_spell rest hthere (areSegments_append.mp hhere).1]

/-- **Moving is an isomorphism of subtrees.**  Of all paths in normal form at or below `source`, the
image is in normal form at or below `target`, and the opposite move leads back from it.  Inside the
subtree a path has a parent, the image of the parent is the parent of the image, and the last
segment is the same.  The subtree itself is what steps up say it is. -/
theorem rebase_isomorphism :
    (∀ source target path : String, IsNormal source → IsNormal target → IsNormal path →
        path = source ∨ isBelow path source = true →
      IsNormal (rebase path source target)
        ∧ (rebase path source target = target
          ∨ isBelow (rebase path source target) target = true)
        ∧ rebase (rebase path source target) target source = path
        ∧ (path ≠ source →
          fileName (rebase path source target) = fileName path
            ∧ ∃ up, parent? path = some up
              ∧ parent? (rebase path source target) = some (rebase up source target)))
      ∧ ∀ path ancestor : String, IsNormal path → IsNormal ancestor →
        (isBelow path ancestor = true ↔ TransGen StepsUp path ancestor) := by
  refine ⟨fun source target path hsource htarget hpath hmoves => ?_,
    fun path ancestor hpath hancestor => isBelow_iff_transGen hpath hancestor⟩
  refine ⟨isNormal_rebase hpath hsource htarget hmoves, rebase_eq_or_isBelow path source target,
    rebase_rebase hpath hsource htarget hmoves, fun hne => ?_⟩
  have hbelow := hmoves.resolve_left hne
  obtain ⟨up, hup, -⟩ := (isBelow_iff_parent hpath hsource).mp hbelow
  exact ⟨fileName_rebase hpath hsource htarget hbelow, up, hup,
    parent?_rebase hpath hsource htarget hbelow hup⟩

/-- A path is moved out of a directory to the root, and a directory with a common beginning is none
above it. -/
theorem rebase_isomorphism_to_root :
    rebase (rebase "/home/user/a/b" "/home/user" "/") "/" "/home/user" = "/home/user/a/b"
      ∧ parent? (rebase "/home/user/a/b" "/home/user" "/") = some "/a"
      ∧ TransGen StepsUp "/home/user/a/b" "/home/user"
      ∧ ¬ TransGen StepsUp "/homework" "/home" := by
  obtain ⟨hmoves, hsteps⟩ := rebase_isomorphism
  obtain ⟨-, -, hback, hinside⟩ :=
    hmoves "/home/user" "/" "/home/user/a/b" (by decide) (by decide) (by decide) (by decide)
  obtain ⟨-, up, hup, himage⟩ := hinside (by decide)
  obtain rfl : "/home/user/a" = up := by
    have hparent : parent? "/home/user/a/b" = some "/home/user/a" := by decide
    exact Option.some_inj.mp (hparent.symm.trans hup)
  exact ⟨hback, himage, (hsteps _ _ (by decide) (by decide)).mp (by decide),
    fun hreached => absurd ((hsteps _ _ (by decide) (by decide)).mpr hreached) (by decide)⟩

end VirtualShell.Path
