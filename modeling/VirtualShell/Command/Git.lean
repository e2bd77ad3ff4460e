import VirtualShell.Command.Packages
import VirtualShell.Digest.Sha1
import VirtualShell.Url.Basic

/-!
# Version control

`git` keeps no history.  `clone` and `init` make the directories and files that a checkout would
begin with; every other subcommand answers with a text.  The names of objects are digests of the
arguments, so the same arguments name the same objects.
-/

namespace VirtualShell.Command

open Text

/-! ## Objects -/

/-- The name of the object with the given parts, each closed by a zero byte. -/
def objectId (parts : List String) : String :=
  Digest.Sha1.hexDigest (parts.flatMap fun part => bytesOf part ++ [0])

/-- The short name of an object. -/
def shortId (parts : List String) : String := String.ofList ((objectId parts).toList.take 7)

/-- The only branch. -/
def branchName : String := "main"

/-! ## Cloning -/

/-- The path of a remote: that of an address, or what follows the last colon. -/
def remotePath? (naming : Url.Naming) (remote : String) : Option String :=
  match Url.parse? naming remote with
  | some url => some url.path
  | none => (cutAtLast? ':' remote.toList).map fun sides => String.ofList sides.2

/-- The name of a repository: the last segment of its path, without its ending. -/
def repositoryName? (naming : Url.Naming) (remote : String) : Option String :=
  (remotePath? naming remote).bind fun path =>
    let last := ((trimEndMatches (· = '/') path).toList.reverse.takeWhile (· ≠ '/')).reverse
    let last := String.ofList last
    let name := (stripEnd? ".git" last).getD last
    if name = "" then none else some name

/-- The manifest of a cloned repository. -/
def clonedManifest (name origin : String) : Json.Value :=
  .ofMembers
    [("name", .string (lowerCase name)), ("version", .string "1.0.0"),
     ("description", .string ("Cloned from " ++ origin)), ("main", .string "index.js"),
     ("scripts",
       .ofMembers [("start", .string "node index.js"), ("test", .string noTestScript)]),
     ("license", .string "MIT")]

/-- The file that lists what is not tracked. -/
def ignoreList : String := "\n".intercalate ["node_modules/", ".env", "*.log", "dist/", ".DS_Store"]

/-- What cloning shows; the number of objects is drawn from the digest of the origin. -/
def cloneText (name origin : String) : String :=
  let objects : Nat := 20 + ((Digest.Sha1.digest (bytesOf origin)).headD 0).toNat % 180
  let all := toString objects
  let deltas := toString (objects / 3)
  "\n".intercalate
    ["Cloning into '" ++ name ++ "'...",
     "remote: Enumerating objects: " ++ all ++ ", done.",
     "remote: Counting objects: 100% (" ++ all ++ "/" ++ all ++ "), done.",
     "remote: Compressing objects: 100% (" ++ deltas ++ "/" ++ deltas ++ "), done.",
     "remote: Total " ++ all ++ " (delta " ++ deltas ++ "), reused " ++ all ++ " (delta "
       ++ deltas ++ "), pack-reused 0",
     "Receiving objects: 100% (" ++ all ++ "/" ++ all ++ "), done.",
     "Resolving deltas: 100% (" ++ deltas ++ "/" ++ deltas ++ "), done."]

/-- The files of a cloned repository.  Credentials in the address of its origin are not written
down. -/
def cloneScript (name target origin : String) : ToolScript :=
  let title := Path.fileName target
  { output := cloneText name origin
    effects :=
      [.makeDirectory target,
       .makeDirectory (Path.join target ".git"),
       .file (Path.join target "README.md") ("# " ++ title ++ "\n\nCloned from " ++ origin),
       .file (Path.join target ".gitignore") ignoreList,
       .file (Path.join target "package.json") (clonedManifest title origin).indented] }

/-- Clones a remote into a directory that is not there yet. -/
def cloneInto (call : Invocation) (store : Store) (remote name : String) :
    Plan × List Log.Event :=
  let target := call.resolve name
  if store.contains target then
    (.failed ("fatal: destination path " ++ quoted name
      ++ " already exists and is not an empty directory."), [])
  else
    (.perform (cloneScript name target (Log.stripCredentials remote)),
      [.cloned (call.policy.redact remote) target])

/-- `git clone` makes a repository with a few files. -/
def gitClone (call : Invocation) (store : Store) (args : List String) : Plan × List Log.Event :=
  match args.filter fun arg => !startsWith "-" arg with
  | [] => (.failed "fatal: You must specify a repository to clone.", [])
  | [remote] =>
    match repositoryName? call.naming remote with
    | some name => cloneInto call store remote name
    | none => (.failed ("fatal: repository " ++ quoted remote ++ " does not exist"), [])
  | remote :: name :: _ => cloneInto call store remote name

/-! ## The other subcommands -/

/-- `git init` makes an empty repository. -/
def gitInit (call : Invocation) (store : Store) (args : List String) : Plan :=
  let dir :=
    match args.find? fun arg => !startsWith "-" arg with
    | some operand => call.resolve operand
    | none => call.cwd
  let gitDir := Path.join dir ".git"
  if store.contains gitDir then
    .ok ("Reinitialized existing Git repository in " ++ gitDir ++ "/")
  else
    .perform
      { output := "Initialized empty Git repository in " ++ gitDir ++ "/"
        effects :=
          [.makeDirectory dir, .makeDirectory gitDir,
           .file (Path.join gitDir "HEAD") ("ref: refs/heads/" ++ branchName)] }

/-- The message of a commit: the words behind `-m`, without quotes. -/
def commitMessage (args : List String) : String :=
  let words := (args.dropWhile (· ≠ "-m")).drop 1
  String.ofList ((" ".intercalate words).toList.filter fun c => c ≠ '"' && c ≠ '\'')

/-- `git commit` shows a commit with a message. -/
def gitCommit (args : List String) : Plan :=
  let message := commitMessage args
  if message = "" then .failed "Aborting commit due to empty commit message."
  else
    .ok ("[" ++ branchName ++ " " ++ shortId ["commit", message] ++ "] " ++ message
      ++ "\n 1 file changed, 1 insertion(+)")

/-- `git push` shows a transfer. -/
def gitPush (args : List String) : Plan :=
  .ok ("\n".intercalate
    ["Enumerating objects: 5, done.",
     "Counting objects: 100% (5/5), done.",
     "Writing objects: 100% (3/3), 312 bytes | 312.00 KiB/s, done.",
     "Total 3 (delta 1), reused 0 (delta 0), pack-reused 0",
     "To origin",
     "   " ++ shortId ["push", "base"] ++ ".." ++ shortId ["push", " ".intercalate args] ++ "  "
       ++ branchName ++ " -> " ++ branchName])

/-- `git log` shows the first commit. -/
def gitLog : Plan :=
  .ok ("\n".intercalate
    ["commit " ++ objectId ["commit", "Initial commit"],
     "Author: user <user@simsh.local>",
     "Date:   Mon Jan 1 09:00:00 2024 +0000",
     "",
     "    Initial commit"])

/-- `git status` finds nothing to commit. -/
def gitStatus : Plan :=
  .ok ("\n".intercalate
    ["On branch " ++ branchName,
     "Your branch is up to date with 'origin/" ++ branchName ++ "'.",
     "",
     "nothing to commit, working tree clean"])

/-- How `git` is to be called. -/
def gitUsage : String := "\n".intercalate
  ["usage: git [--version] <command> [<args>]",
   "",
   "These are common Git commands:",
   "clone     Clone a repository into a new directory",
   "init      Create an empty Git repository",
   "add       Add file contents to the index",
   "status    Show the working tree status",
   "commit    Record changes to the repository",
   "log       Show commit logs",
   "branch    List branches",
   "pull      Fetch from and integrate with another repository",
   "push      Update remote refs along with associated objects"]

/-- `git` is a version control system without history. -/
def git : Command := .tool fun call store =>
  match call.args with
  | [] => (.failed gitUsage, [])
  | "--version" :: _ | "version" :: _ => (.ok "git version 2.43.0", [])
  | "clone" :: rest => gitClone call store rest
  | "init" :: rest => (gitInit call store rest, [])
  | "status" :: _ => (gitStatus, [])
  | "add" :: _ => (.ok "", [])
  | "commit" :: rest => (gitCommit rest, [])
  | "push" :: rest => (gitPush rest, [])
  | "pull" :: _ => (.ok "Already up to date.", [])
  | "log" :: _ => (gitLog, [])
  | "branch" :: _ => (.ok ("* " ++ branchName), [])
  | other :: _ =>
    (.failed ("git: " ++ quoted other ++ " is not a git command. See 'git --help'."), [])

end VirtualShell.Command
