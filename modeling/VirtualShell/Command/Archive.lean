import VirtualShell.Command.Basic

/-!
# Archives

An archive is an ordinary file that lists what was put into it: a header line, then one entry a
line, where a directory ends in a slash.  The contents are not stored, so extracting an archive
only reports its entries.
-/

namespace VirtualShell.Command

open Text

/-- The first line of every archive. -/
def archiveHeader : String := "SIMSH-ARCHIVE 1"

/-! ## Entries -/

/-- The entries of one operand: the node itself and all below it, written behind the operand as it
was typed. -/
def operandEntries (store : Store) (operand path : String) (node : Node) : List String :=
  let base := trimEndMatches (· = '/') operand
  if node.isDirectory then
    (base ++ "/") :: (store.descendants path).map fun inner =>
      base ++ "/" ++ Path.display path inner.path ++ (if inner.isDirectory then "/" else "")
  else [base]

/-- The entries of all operands, or the first operand that is not there. -/
def archiveEntries (call : Invocation) (store : Store) :
    List String → Except String (List String)
  | [] => .ok []
  | operand :: rest =>
    let path := call.resolve operand
    match store.get? path with
    | none => .error operand
    | some node => do
      let more ← archiveEntries call store rest
      return operandEntries store operand path node ++ more

/-- The text of an archive with the given entries. -/
def archiveText (entries : List String) : String := "\n".intercalate (archiveHeader :: entries)

/-- The entries that a text lists, if it is an archive. -/
def readArchive (text : String) : List String :=
  match linesOf text with
  | [] => []
  | header :: entries => if header = archiveHeader then entries else []

/-- The text of the file at a path. -/
def fileText? (store : Store) (path : String) : Option String :=
  (store.get? path).bind fun node => node.body.content?

/-! ## Tar -/

/-- How `tar` is to be called. -/
def tarUsage : String := "Usage: tar -c|-x|-t [-vzf] ARCHIVE [FILE...]"

/-- Puts operands into an archive. -/
def tarCreate (call : Invocation) (store : Store) (verbose : Bool) (archive : String)
    (operands : List String) : Plan :=
  if operands.isEmpty then .failed "tar: Cowardly refusing to create an empty archive"
  else
    match archiveEntries call store operands with
    | .error operand =>
      .failed ("tar: " ++ operand ++ ": Cannot stat: No such file or directory")
    | .ok entries =>
      .perform
        { output := if verbose then "\n".intercalate entries else ""
          effects := [.file (call.resolve archive) (archiveText entries)] }

/-- Lists the entries of an archive, or goes through them in silence. -/
def tarRead (call : Invocation) (store : Store) (shown : Bool) (archive : String) : Plan :=
  match fileText? store (call.resolve archive) with
  | none => .failed ("tar: " ++ archive ++ ": Cannot open: No such file or directory")
  | some text => .ok (if shown then "\n".intercalate (readArchive text) else "")

/-- `tar` makes, lists and goes through archives, as the letters of its first argument say. -/
def tar : Command := .tool fun call store =>
  match call.args with
  | mode :: archive :: operands =>
    let letters := (trimStartMatches (· = '-') mode).toList
    let has (c : Char) : Bool := letters.contains c
    let plan :=
      if has 'c' then tarCreate call store (has 'v') archive operands
      else if has 'x' || has 't' then tarRead call store (has 'v' || has 't') archive
      else .failed ("tar: You must specify one of the '-Acdtrux' options\n" ++ tarUsage)
    (plan, [])
  | _ => (.failed tarUsage, [])

/-! ## Zip -/

/-- An archive name with its ending. -/
def zipName (archive : String) : String :=
  if endsWith ".zip" archive then archive else archive ++ ".zip"

/-- Puts files into an archive. -/
def zipCreate (call : Invocation) (store : Store) (archive : String) (files : List String) :
    Plan :=
  match archiveEntries call store files with
  | .error operand =>
    .failed ("zip warning: name not matched: " ++ operand ++ "\n\nzip error: Nothing to do! ("
      ++ zipName archive ++ ")")
  | .ok entries =>
    .perform
      { output :=
          "\n".intercalate (entries.map fun entry => "  adding: " ++ entry ++ " (stored 0%)")
        effects := [.file (call.resolve (zipName archive)) (archiveText entries)] }

/-- `zip` puts files into an archive. -/
def zip : Command := .tool fun call store =>
  match call.args.filter fun arg => !startsWith "-" arg with
  | [] => (.failed "zip error: Nothing to do! (try: zip -r archive.zip dir)", [])
  | [archive] => (.failed ("zip error: Nothing to do! (" ++ archive ++ ")"), [])
  | archive :: files => (zipCreate call store archive files, [])

/-- How an entry is reported when an archive is opened. -/
def unzipLine (entry : String) : String :=
  (if endsWith "/" entry then "   creating: " else "  inflating: ") ++ entry

/-- `unzip` reports the entries of an archive, whose ending may be left out. -/
def unzip : Command := .inspect fun call store =>
  match call.args.find? fun arg => !startsWith "-" arg with
  | none =>
    .failed "UnZip 6.00 of 20 April 2009\nUsage: unzip [-opts] file[.zip] [list] [-d exdir]"
  | some archive =>
    let found := [archive, archive ++ ".zip"].findSome? fun name =>
      (fileText? store (call.resolve name)).map fun text => (name, text)
    match found with
    | none =>
      .failed ("unzip:  cannot find or open " ++ archive ++ ", " ++ archive ++ ".zip or "
        ++ archive ++ ".ZIP.")
    | some (name, text) =>
      .ok ("\n".intercalate (("Archive:  " ++ name) :: (readArchive text).map unzipLine))

end VirtualShell.Command
