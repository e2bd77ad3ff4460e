import VirtualShell.Text.Pieces

/-!
# Reading

What the program reads is text, and reading it may fail: a file may be missing, and bytes may be no
text.  A file is read as a whole.  The standard input is read line by line, each line when it is
wanted, and whoever meets a line that cannot be read goes no further.
-/

namespace VirtualShell.Frontend

/-- Why something cannot be read. -/
inductive ReadFault where
  | missing
  | denied
  /-- Something on the way to the file is a file itself. -/
  | notADirectory
  | isADirectory
  /-- The bytes are no text. -/
  | notText
  | other (reason : String)
  deriving DecidableEq, Repr

/-- The reason in words. -/
def ReadFault.message : ReadFault → String
  | missing => "No such file or directory (os error 2)"
  | denied => "Permission denied (os error 13)"
  | notADirectory => "Not a directory (os error 20)"
  | isADirectory => "Is a directory (os error 21)"
  | notText => "stream did not contain valid UTF-8"
  | other reason => reason

/-- An input that is read line by line. -/
structure Input where
  /-- The lines as they are read, each a text or the reason why it is none. -/
  lines : List (Except ReadFault String)

/-- An input that is text throughout. -/
def Input.ofText (text : String) : Input := ⟨(Text.linesOf text).map .ok⟩

instance : Coe String Input := ⟨Input.ofText⟩

end VirtualShell.Frontend
