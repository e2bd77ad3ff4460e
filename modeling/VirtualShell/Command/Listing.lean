import VirtualShell.Command.Basic

/-!
# Listing and finding

`ls` shows the nodes of directories, by name in the short form and in order of creation in the long
one.  `find` shows all nodes below a directory whose names and kinds fit, in the order of their
paths, each written the way its directory was typed.
-/

namespace VirtualShell.Command

open Text

/-! ## Ls -/

/-- How `ls` shows what it lists. -/
structure ListingStyle where
  long : Bool
  /-- Whether hidden nodes are shown. -/
  all : Bool
  onePerLine : Bool

/-- A clock reading as the long form shows it: month, day, hour and minute. -/
def listingTime (t : Time.Instant) : String :=
  Time.shortName t.date.monthName ++ " " ++ padLeft 2 (toString t.date.day) ++ " "
    ++ zeroPadded 2 t.hour ++ ":" ++ zeroPadded 2 t.minute

/-- The user and the group that own everything. -/
def owner : String := "user"

/-- A node in the long form, under the name it is listed by. -/
def longEntry (name : String) (node : Node) : String :=
  " ".intercalate
    [node.permissions, if node.isDirectory then "2" else "1", owner, owner,
     padLeft 6 (toString node.size), listingTime node.updated, name]

/-- Blocks of the disk, four for each begun kibibyte. -/
def blocks (nodes : List Node) : Nat :=
  nodes.foldr (fun node total => (node.size + 1023) / 1024 * 4 + total) 0

/-- Names in order, side by side or one below the other. -/
def shortListing (style : ListingStyle) (names : List String) : String :=
  (if style.onePerLine then "\n" else "  ").intercalate (names.mergeSort fun a b => decide (a ≤ b))

/-- The listing of a directory's nodes. -/
def directoryListing (style : ListingStyle) (nodes : List Node) : String :=
  let shown := nodes.filter fun node => style.all || !node.isHidden
  if style.long then
    "\n".intercalate (("total " ++ toString (blocks shown))
      :: shown.map fun node => longEntry node.name node)
  else shortListing style (shown.map Node.name)

/-- The listing of one operand, or the complaint that it is not there. -/
def listOperand (call : Invocation) (store : Store) (style : ListingStyle) (operand : String) :
    Except String String :=
  let path := call.resolve operand
  match store.get? path with
  | none => .error ("ls: cannot access " ++ quoted operand ++ ": No such file or directory")
  | some node =>
    .ok
      (if node.isDirectory then directoryListing style (store.children path)
       else if style.long then longEntry operand node
       else operand)

/-- What failed among the results of several operands. -/
def failuresOf {α : Type} (results : List (Except String α)) : List String :=
  results.filterMap fun
    | .error complaint => some complaint
    | .ok _ => none

/-- What succeeded among the results of several operands. -/
def successesOf {α : Type} (results : List (Except String α)) : List α :=
  results.filterMap fun
    | .ok value => some value
    | .error _ => none

/-- `ls` lists directories and files; several operands get a heading each. -/
def ls : Command := .inspect fun call store => .ofExcept do
  let arguments ← flagsOr call "la1"
  let style : ListingStyle :=
    ⟨arguments.flags.contains 'l', arguments.flags.contains 'a', arguments.flags.contains '1'⟩
  let operands := if arguments.operands.isEmpty then ["."] else arguments.operands
  let heading (operand : String) : String :=
    if 1 < operands.length then operand ++ ":\n" else ""
  let results := operands.map fun operand =>
    (listOperand call store style operand).map (heading operand ++ ·)
  let output := "\n\n".intercalate (successesOf results)
  let failures := failuresOf results
  match failures with
  | [] => return .ok output
  | first :: _ =>
    let parts := failures ++ (if output = "" then [] else [output])
    return .reply ⟨"\n".intercalate parts, some first, false⟩

/-! ## Find -/

/-- What `find` looks for. -/
structure Search where
  /-- Where it begins, as typed. -/
  start : Option String := none
  /-- What names have to contain. -/
  needle : Option String := none
  kind : Option NodeKind := none
  deriving DecidableEq, Repr

/-- What a name pattern leaves to be found: quotes and wildcards do not count. -/
def patternNeedle (pattern : String) : String :=
  String.ofList (pattern.toList.filter fun c => c ≠ '"' && c ≠ '\'' && c ≠ '*')

/-- Reads the arguments of `find`; the last filter of a kind and the first path count. -/
def readSearch (search : Search) : List String → Except String Search
  | [] => .ok search
  | [arg] =>
    if arg = "-name" || arg = "-iname" then .error "find: missing argument to `-name'"
    else if arg = "-type" then .error "find: missing argument to `-type'"
    else if startsWith "-" arg then .error ("find: unknown predicate `" ++ arg ++ "'")
    else .ok { search with start := search.start <|> some arg }
  | arg :: value :: rest =>
    if arg = "-name" || arg = "-iname" then
      readSearch { search with needle := some (patternNeedle value) } rest
    else if arg = "-type" then
      if value = "f" then readSearch { search with kind := some .file } rest
      else if value = "d" then readSearch { search with kind := some .directory } rest
      else .error ("find: Unknown argument to -type: " ++ value)
    else if startsWith "-" arg then .error ("find: unknown predicate `" ++ arg ++ "'")
    else readSearch { search with start := search.start <|> some arg } (value :: rest)

/-- Whether a node is what a search looks for. -/
def Search.accepts (search : Search) (node : Node) : Bool :=
  (match search.needle with
    | some needle => contains node.name needle
    | none => true)
  && (match search.kind with
    | some kind => node.kind = kind
    | none => true)

/-- A path that was found, written behind the start as it was typed. -/
def foundAs (start root found : String) : String :=
  if found = root then start
  else trimEndMatches (· = '/') start ++ Path.rebase found root "/"

/-- `find` shows the nodes at and below a path that fit. -/
def find : Command := .inspect fun call store =>
  match readSearch {} call.args with
  | .error complaint => .failed complaint
  | .ok search =>
    let start := search.start.getD "."
    let root := call.resolve start
    match store.get? root with
    | none => .ok ""
    | some node =>
      .ok ("\n".intercalate (((node :: store.descendants root).filter search.accepts).map
        fun node => foundAs start root node.path))

end VirtualShell.Command
