import VirtualShell.Command.Basic

/-!
# Editors

A session has no terminal, so an editor shows the first screen of a file and ends.  Nothing is
written back.
-/

namespace VirtualShell.Command

open Text

/-- The lines of a file that fit the screen. -/
def screenLines : Nat := 20

/-- What every editor says in the end. -/
def readOnlyHint : String :=
  "(interactive editing is not supported in this shell; use echo TEXT > FILE to write)"

/-- The screen of `nano`. -/
def nanoScreen (file : String) (content : Option String) : List String :=
  let (shown, status) :=
    match content with
    | some text =>
      ((linesOf text).take screenLines,
        "[ Read " ++ toString (linesOf text).length ++ " lines ]")
    | none => ([], "[ New File ]")
  ["  GNU nano 6.2" ++ padLeft 30 file, ""] ++ shown
    ++ ["", status, "^G Help  ^O Write Out  ^W Where Is  ^K Cut  ^X Exit"]

/-- The screen of `vim`: up to five tildes stand for the rows that the file leaves empty. -/
def vimScreen (file : String) (content : Option String) : List String :=
  let (shown, status) :=
    match content with
    | some text =>
      ((linesOf text).take screenLines,
        "\"" ++ file ++ "\" " ++ toString (linesOf text).length ++ "L, "
          ++ toString text.utf8ByteSize ++ "B")
    | none => ([], "\"" ++ file ++ "\" [New]")
  shown ++ List.replicate (min (screenLines - shown.length) 5) "~" ++ [status]

/-- The screen of the editor with a name. -/
def editorScreen (name file : String) (content : Option String) : String :=
  let screen := if name = "nano" then nanoScreen file content else vimScreen file content
  "\n".intercalate (screen ++ [readOnlyHint])

/-- An editor shows the file that its last operand names. -/
def editor : Command := .inspect fun call store =>
  match call.args.reverse.find? fun arg => !startsWith "-" arg && !startsWith "+" arg with
  | none => .failed ("Usage: " ++ call.name ++ " FILE")
  | some file =>
    match store.get? (call.resolve file) with
    | none => .ok (editorScreen call.name file none)
    | some node =>
      if node.isDirectory then .failed (call.name ++ ": " ++ file ++ ": Is a directory")
      else .ok (editorScreen call.name file (some node.text))

end VirtualShell.Command
