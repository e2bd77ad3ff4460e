import VirtualShell.Command.Basic

/-!
# Text in and out of files

`echo` prints its words, or puts them into a file behind `>` or `>>`; `cat` prints files one behind
the other.  What is appended becomes a new line, so the text that `cat` gives back is the texts
that were written with line feeds between them.
-/

namespace VirtualShell.Command

open Text

/-! ## Echo -/

/-- Where the words of an `echo` go. -/
inductive Destination where
  | screen
  | overwrite (file : String)
  | append (file : String)
  deriving DecidableEq, Repr

/-- The complaint about a redirection without a file. -/
def missingTarget : String := "syntax error near unexpected token `newline'"

/-- A file name without double quotes around it. -/
def unquoted (file : String) : String := trimMatches (· = '"') file

/-- What a word that begins with `>` does: the redirection, and a file name attached to it. -/
def redirection? (word : String) : Option ((String → Destination) × String) :=
  match word.toList with
  | '>' :: '>' :: rest => some (.append, String.ofList rest)
  | '>' :: rest => some (.overwrite, String.ofList rest)
  | _ => none

/-- The words to print and where they go.  The first word that begins with `>` ends them; its file
is attached to it or is the next word, and what follows is ignored. -/
def splitRedirection : List String → Except String (List String × Destination)
  | [] => .ok ([], .screen)
  | word :: rest =>
    match redirection? word with
    | none => do
      let (words, destination) ← splitRedirection rest
      return (word :: words, destination)
    | some (into, attached) =>
      if attached ≠ "" then .ok ([], into (unquoted attached))
      else
        match rest with
        | file :: _ => .ok ([], into (unquoted file))
        | [] => .error missingTarget

/-- The options in front of the words, and whether one of them asks for escapes. -/
def echoOptions : List String → Bool × List String
  | "-e" :: rest => (true, (echoOptions rest).2)
  | "-n" :: rest => echoOptions rest
  | "-E" :: rest => echoOptions rest
  | words => (false, words)

/-- The text that words make: joined by spaces, without double quotes, and with the escapes for
line feed and tab carried out if they were asked for. -/
def echoText (escapes : Bool) (words : List String) : String :=
  let plain := String.ofList ((" ".intercalate words).toList.filter (· ≠ '"'))
  if escapes then replaceAll "\\t" "\t" (replaceAll "\\n" "\n" plain) else plain

/-- Writes a text into a file for `echo`. -/
def echoInto (call : Invocation) (store : Store) (file text : String) : Verdict × Store :=
  match store.upsert (.file (call.resolve file) text) call.now with
  | .ok (_, store) => (.ok "", store)
  | .error failure => (.failed ("echo: " ++ file ++ ": " ++ failure.message), store)

/-- A text appended to what a file holds: on a new line, unless there is nothing yet. -/
def appended (store : Store) (path text : String) : String :=
  match store.get? path with
  | some node => if node.text = "" then text else node.text ++ "\n" ++ text
  | none => text

/-- `echo` prints words or writes them into a file. -/
def echo : Command := .edit fun call store =>
  let (escapes, args) := echoOptions call.args
  match splitRedirection args with
  | .error complaint => (.failed complaint, store)
  | .ok (words, destination) =>
    let text := echoText escapes words
    match destination with
    | .screen => (.ok text, store)
    | .overwrite file => echoInto call store file text
    | .append file => echoInto call store file (appended store (call.resolve file) text)

/-! ## Cat -/

/-- The texts of files one behind the other; the first that cannot be read is an error. -/
def catFiles (call : Invocation) (store : Store) : List String → Except Verdict String
  | [] => .ok ""
  | file :: rest =>
    match store.get? (call.resolve file) with
    | none => .error (.failed ("cat: " ++ file ++ ": No such file or directory"))
    | some node =>
      if node.isDirectory then .error (.failed ("cat: " ++ file ++ ": Is a directory"))
      else do
        let more ← catFiles call store rest
        return node.text ++ more

/-- Lines with their numbers from one, each in a column of its own. -/
def numbered (text : String) : String :=
  "\n".intercalate ((linesOf text).zipIdx 1 |>.map fun line =>
    padLeft 6 (toString line.2) ++ "\t" ++ line.1)

/-- `cat` prints files, with `-n` as numbered lines. -/
def cat : Command := .inspect fun call store => .ofExcept do
  let arguments ← flagsOr call "n"
  if arguments.operands.isEmpty then
    throw (.failure (.missingOperand "file operand"))
  let text ← catFiles call store arguments.operands
  return .ok (if arguments.flags.contains 'n' then numbered text else text)

end VirtualShell.Command
