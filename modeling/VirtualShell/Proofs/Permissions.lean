import Mathlib.Data.List.Forall2
import Mathlib.Tactic.Common
import VirtualShell.Node
import VirtualShell.Permissions

/-!
# What permissions may look like

A text displays permissions for a kind of node if it has ten characters: the letter of the kind, and
for each of the nine rights its letter or a hyphen.  `Permissions.text` writes nothing else, so a
mode always leads to such a text, whatever stood there before (`displays_changedPermissions?`).
-/

namespace VirtualShell

/-- The first character of permissions. -/
def NodeKind.letter : NodeKind → Char
  | file => '-'
  | directory => 'd'

/-- Ten characters that show permissions for a kind of node. -/
def Displays (kind : NodeKind) (text : String) : Prop :=
  ∃ rights, text.toList = kind.letter :: rights
    ∧ List.Forall₂ (fun shown letter => shown = '-' ∨ shown = letter) rights "rwxrwxrwx".toList

/-- Permissions written out display themselves. -/
lemma displays_text (permissions : Permissions) (kind : NodeKind) :
    Displays kind (permissions.text (kind = .directory)) := by
  have hletter : (if decide (kind = .directory) = true then 'd' else '-') = kind.letter := by
    cases kind <;> rfl
  refine ⟨_, by rw [Permissions.text, String.toList_ofList, hletter], ?_⟩
  have hmark : ∀ (set : Bool) (letter : Char),
      (if set then letter else '-') = '-' ∨ (if set then letter else '-') = letter := by
    intro set letter
    cases set <;> simp
  simp only [Permissions.rightsText, List.cons_append, List.nil_append]
  exact .cons (hmark _ _) (.cons (hmark _ _) (.cons (hmark _ _) (.cons (hmark _ _)
    (.cons (hmark _ _) (.cons (hmark _ _) (.cons (hmark _ _) (.cons (hmark _ _)
      (.cons (hmark _ _) .nil))))))))

/-- The three texts that new nodes begin with are what their permissions look like. -/
lemma displays_directoryPermissions : Displays .directory directoryPermissions :=
  displays_text ⟨⟨true, true, true⟩, ⟨true, false, true⟩, ⟨true, false, true⟩⟩ .directory

lemma displays_filePermissions : Displays .file filePermissions :=
  displays_text ⟨⟨true, true, false⟩, ⟨true, false, false⟩, ⟨true, false, false⟩⟩ .file

lemma displays_executablePermissions : Displays .file executablePermissions :=
  displays_text ⟨⟨true, true, true⟩, ⟨true, false, true⟩, ⟨true, false, true⟩⟩ .file

/-- **Every mode leads to a display**, whatever the text was that it is applied to. -/
theorem displays_changedPermissions? {current mode text : String} {kind : NodeKind}
    (h : changedPermissions? current (kind = .directory) mode = some text) :
    Displays kind text := by
  obtain ⟨change, -, rfl⟩ := Option.map_eq_some_iff.mp h
  exact displays_text _ kind

end VirtualShell
