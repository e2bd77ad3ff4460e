import Mathlib.Data.List.Induction
import Mathlib.Tactic.Common
import VirtualShell.Permissions

/-!
# What a mode makes of each right

A mode works on nine bits, one for each right of each class, and treats them apart from each other.
For one bit there are two possibilities: the mode decides it, or leaves it as it is
(`Mode.decides?`).  A mode that gives all nine decides all nine; of clauses, the last one that has
something to say about a bit decides it (`Mode.has_apply`).

What is decided is decided whatever the bit has been.  So to apply a mode twice is to apply it once,
also where its clauses contradict each other (`Mode.apply_apply`).  Texts change nothing about this,
because permissions are read off a text as they were written (`Permissions.ofText_text`).
-/

namespace VirtualShell

variable {permissions : Permissions} {cls : UserClass} {right : Right} {mode : String}

/-! ## Nine bits -/

/-- Whether a right is given. -/
def Rights.has (rights : Rights) : Right → Bool
  | .read => rights.read
  | .write => rights.write
  | .execute => rights.execute

/-- Whether a class has a right. -/
def Permissions.has (permissions : Permissions) : UserClass → Right → Bool
  | .user => permissions.user.has
  | .group => permissions.group.has
  | .other => permissions.other.has

lemma Rights.ext_has {rights others : Rights} (h : ∀ right, rights.has right = others.has right) :
    rights = others := by
  obtain ⟨read, write, execute⟩ := rights
  obtain ⟨read', write', execute'⟩ := others
  exact congr (congr (congrArg Rights.mk (h .read)) (h .write)) (h .execute)

lemma Permissions.ext_has {others : Permissions}
    (h : ∀ cls right, permissions.has cls right = others.has cls right) :
    permissions = others := by
  obtain ⟨user, group, other⟩ := permissions
  obtain ⟨user', group', other'⟩ := others
  exact congr (congr (congrArg Permissions.mk (Rights.ext_has (h .user)))
    (Rights.ext_has (h .group))) (Rights.ext_has (h .other))

/-! ## Decisions -/

/-- What a clause makes of a right of a class that it concerns: given or taken away, or left alone
if it is not named.  An assignment also takes away what it does not name. -/
def Clause.decidesRight? (clause : Clause) (right : Right) : Option Bool :=
  if right ∈ clause.rights then some (clause.sign ≠ .remove)
  else if clause.sign = .assign then some false
  else none

/-- What a clause makes of a bit, if it concerns it. -/
def Clause.decides? (clause : Clause) (cls : UserClass) (right : Right) : Option Bool :=
  if cls ∈ clause.classes then clause.decidesRight? right else none

/-- What a mode makes of a bit: of clauses, the last one that decides it counts. -/
def Mode.decides? (mode : Mode) (cls : UserClass) (right : Right) : Option Bool :=
  match mode with
  | replace permissions => some (permissions.has cls right)
  | amend clauses => clauses.reverse.findSome? fun clause => clause.decides? cls right

/-! ## Clauses -/

lemma Rights.has_set {rights : Rights} {value : Bool} {changed : Right} :
    (rights.set value changed).has right = if right = changed then value else rights.has right := by
  cases changed <;> cases right <;> rfl

lemma Rights.has_foldl_set {start : Rights} {value : Bool} {named : List Right} :
    (named.foldl (fun rights changed => rights.set value changed) start).has right
      = if right ∈ named then value else start.has right := by
  induction named generalizing start with
  | nil => rfl
  | cons changed rest ih =>
      rw [List.foldl_cons, ih, Rights.has_set]
      by_cases hrest : right ∈ rest <;> by_cases hchanged : right = changed <;>
        simp [hrest, hchanged]

lemma Rights.has_amend {rights : Rights} {clause : Clause} :
    (rights.amend clause.sign clause.rights).has right
      = (clause.decidesRight? right).getD (rights.has right) := by
  have hcleared : (⟨false, false, false⟩ : Rights).has right = false := by cases right <;> rfl
  simp only [amend, Clause.decidesRight?, has_foldl_set]
  by_cases hnamed : right ∈ clause.rights <;> by_cases hassign : clause.sign = .assign <;>
    simp [hnamed, hassign, hcleared]

lemma Permissions.has_amendClass {clause : Clause} {concerned : UserClass} :
    (permissions.amendClass clause concerned).has cls right
      = if cls = concerned then (clause.decidesRight? right).getD (permissions.has cls right)
        else permissions.has cls right := by
  cases concerned <;> cases cls <;> simp [amendClass, has, Rights.has_amend]

/-- A clause may name a class more than once. -/
lemma Permissions.has_foldl_amendClass {clause : Clause} {classes : List UserClass} :
    (classes.foldl (fun permissions concerned => permissions.amendClass clause concerned)
        permissions).has cls right
      = if cls ∈ classes then (clause.decidesRight? right).getD (permissions.has cls right)
        else permissions.has cls right := by
  induction classes generalizing permissions with
  | nil => rfl
  | cons concerned rest ih =>
      rw [List.foldl_cons, ih, has_amendClass]
      by_cases hrest : cls ∈ rest <;> by_cases hconcerned : cls = concerned <;>
        cases hdecides : clause.decidesRight? right <;> simp [hrest, hconcerned]

/-- A clause decides a bit or leaves it. -/
lemma Permissions.has_amend {clause : Clause} :
    (permissions.amend clause).has cls right
      = (clause.decides? cls right).getD (permissions.has cls right) := by
  rw [amend, has_foldl_amendClass, Clause.decides?]
  split <;> rfl

/-! ## Modes -/

/-- **The last clause that decides a bit counts**; by induction from the last clause. -/
theorem Mode.has_apply (mode : Mode) (permissions : Permissions) (cls : UserClass)
    (right : Right) :
    (mode.apply permissions).has cls right
      = (mode.decides? cls right).getD (permissions.has cls right) := by
  cases mode with
  | replace given => rfl
  | amend clauses =>
      simp only [apply, decides?]
      induction clauses using List.reverseRecOn with
      | nil => rfl
      | append_singleton before last ih =>
          rw [List.foldl_append, List.foldl_cons, List.foldl_nil, Permissions.has_amend, ih,
            List.reverse_concat, List.findSome?_cons]
          cases last.decides? cls right <;> rfl

/-- **A mode applied twice is a mode applied once.** -/
theorem Mode.apply_apply (mode : Mode) (permissions : Permissions) :
    mode.apply (mode.apply permissions) = mode.apply permissions := by
  refine Permissions.ext_has fun cls right => ?_
  rw [has_apply, has_apply]
  cases mode.decides? cls right <;> rfl

/-! ## Texts -/

/-- Permissions are read as they were written. -/
lemma Permissions.ofText_text (permissions : Permissions) (isDirectory : Bool) :
    ofText (permissions.text isDirectory) = permissions := by
  obtain ⟨⟨r, w, x⟩, ⟨r', w', x'⟩, ⟨r'', w'', x''⟩⟩ := permissions
  simp [ofText, text, rightsText]

/-- What a mode has made of permissions, it leaves. -/
theorem changedPermissions?_changed {current text : String} {isDirectory : Bool}
    (h : changedPermissions? current isDirectory mode = some text) :
    changedPermissions? text isDirectory mode = some text := by
  obtain ⟨change, hchange, rfl⟩ := Option.map_eq_some_iff.mp h
  rw [changedPermissions?, hchange, Option.map_some, Permissions.ofText_text, Mode.apply_apply]

end VirtualShell
