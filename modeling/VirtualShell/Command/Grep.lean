import VirtualShell.Command.Basic
import VirtualShell.Text.LowerCase

/-!
# Searching in files

`grep` shows the lines of files that contain a text, or those that do not.  The text is taken
literally: there are no patterns.  Cases are told apart unless `-i` is given, and then both the line
and the text are compared in lower case.
-/

namespace VirtualShell.Command

open Text

/-- The options of `grep`. -/
structure GrepStyle where
  ignoreCase : Bool
  /-- Shows the lines that do not contain the text. -/
  inverted : Bool
  numbered : Bool
  /-- Shows how many lines there are instead of the lines. -/
  counted : Bool

/-- Whether a line is shown. -/
def GrepStyle.selects (style : GrepStyle) (pattern line : String) : Bool :=
  let found :=
    if style.ignoreCase then contains (lowerCase line) (lowerCase pattern)
    else contains line pattern
  found != style.inverted

/-- The selected lines of a text with their numbers from one. -/
def grepLines (style : GrepStyle) (pattern text : String) : List (String × Nat) :=
  ((linesOf text).zipIdx 1).filter fun line => style.selects pattern line.1

/-- How the findings in one file are written; `label` is the file's name where several are
searched. -/
def grepOutput (style : GrepStyle) (label : String) (found : List (String × Nat)) : List String :=
  if style.counted then [label ++ toString found.length]
  else
    found.map fun line =>
      label ++ (if style.numbered then toString line.2 ++ ":" else "") ++ line.1

/-- The findings in all files, or the complaint about the first that cannot be read. -/
def grepFiles (call : Invocation) (store : Store) (style : GrepStyle) (pattern : String)
    (labelled : Bool) : List String → Except String (List String)
  | [] => .ok []
  | file :: rest =>
    match store.get? (call.resolve file) with
    | none => .error ("grep: " ++ file ++ ": No such file or directory")
    | some node =>
      if node.isDirectory then .error ("grep: " ++ file ++ ": Is a directory")
      else do
        let label := if labelled then file ++ ":" else ""
        let more ← grepFiles call store style pattern labelled rest
        return grepOutput style label (grepLines style pattern node.text) ++ more

/-- An operand without its quotes. -/
def withoutQuotes (operand : String) : String :=
  String.ofList (operand.toList.filter fun c => c ≠ '"' && c ≠ '\'')

/-- `grep` shows the lines of files that contain a text. -/
def grep : Command := .inspect fun call store => .ofExcept do
  let ⟨flags, operands⟩ ← flagsOr call "ivnc"
  let style : GrepStyle :=
    ⟨flags.contains 'i', flags.contains 'v', flags.contains 'n', flags.contains 'c'⟩
  match operands.map withoutQuotes with
  | pattern :: file :: more =>
    match grepFiles call store style pattern (!more.isEmpty) (file :: more) with
    | .ok found => return .ok ("\n".intercalate found)
    | .error complaint => return .failed complaint
  | _ => return .failed "Usage: grep [-inv] PATTERN FILE"

end VirtualShell.Command
