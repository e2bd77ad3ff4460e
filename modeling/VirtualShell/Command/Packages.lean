import VirtualShell.Command.Script
import VirtualShell.Json.Reader
import VirtualShell.Text.LowerCase

/-!
# Package managers

`npm` makes the directories that installed packages would have, writes a manifest, and shows the
command lines of the scripts that a manifest names.  `pip` only speaks.
-/

namespace VirtualShell.Command

open Text

/-! ## Npm -/

/-- The name of a package without its version: a scope keeps its name but not its mark. -/
def packageName (package : String) : String :=
  ((splitString '@' package).find? (· ≠ "")).getD package

/-- Installs packages: a directory for all of them and one for each. -/
def npmInstall (call : Invocation) (args : List String) : Plan :=
  let modules := call.resolve "node_modules"
  let packages := args.filter fun arg => !startsWith "-" arg
  let count := if packages.isEmpty then 127 else packages.length * 12
  .perform
    { output := "\nadded " ++ toString count ++ " packages, and audited " ++ toString (count + 1)
        ++ " packages in 3s\n\n" ++ toString (count / 8)
        ++ " packages are looking for funding\n  run `npm fund` for details\n\n"
        ++ "found 0 vulnerabilities"
      effects := .makeDirectory modules :: packages.map fun package =>
        .makeDirectory (Path.join modules (packageName package)) }

/-- The command line of a script that no one has written yet. -/
def noTestScript : String := "echo \"Error: no test specified\" && exit 1"

/-- A new manifest for a directory. -/
def newManifest (dir : String) : Json.Value :=
  .ofMembers
    [("name", .string (lowerCase (Path.fileName dir))), ("version", .string "1.0.0"),
     ("description", .string ""), ("main", .string "index.js"),
     ("scripts", .ofMembers [("test", .string noTestScript)]), ("keywords", .array []),
     ("author", .string ""), ("license", .string "ISC")]

/-- The path of the manifest of the working directory. -/
def manifestPath (call : Invocation) : String := call.resolve "package.json"

/-- Writes a new manifest. -/
def npmInit (call : Invocation) : Plan :=
  let manifest := (newManifest call.cwd).indented
  .perform
    { output := "Wrote to " ++ manifestPath call ++ ":\n\n" ++ manifest
      effects := [.file (manifestPath call) manifest] }

/-- Reads the manifest of the working directory. -/
def readManifest (call : Invocation) (store : Store) : Except Plan Json.Value :=
  match (store.get? (manifestPath call)).bind fun node => node.body.content? with
  | none =>
    .error (.failed ("npm ERR! code ENOENT\nnpm ERR! enoent Could not read package.json: "
      ++ "no such file or directory, open " ++ quoted (manifestPath call)))
  | some text =>
    (Json.parse text).mapError fun fault =>
      .failed ("npm ERR! code EJSONPARSE\nnpm ERR! JSON.parse Failed to parse json: "
        ++ fault.message text)

/-- The scripts of a manifest by name. -/
def scriptsOf (manifest : Json.Value) : Json.Value := (manifest.member? "scripts").getD .null

/-- The text of a member, if it is a string. -/
def textMember? (value : Json.Value) (key : String) : Option String :=
  (value.member? key).bind Json.Value.text?

/-- Shows the command line of a script. -/
def npmRun (call : Invocation) (store : Store) (script : String) : Except Plan Plan := do
  let manifest ← readManifest call store
  match textMember? (scriptsOf manifest) script with
  | none => return .failed ("npm ERR! Missing script: \"" ++ script ++ "\"")
  | some command =>
    let name := (textMember? manifest "name").getD "package"
    let version := (textMember? manifest "version").getD "1.0.0"
    return .ok ("\n> " ++ name ++ "@" ++ version ++ " " ++ script ++ "\n> " ++ command ++ "\n")

/-- Lists the scripts of the manifest. -/
def npmScripts (call : Invocation) (store : Store) : Except Plan Plan := do
  let manifest ← readManifest call store
  let lines := (scriptsOf manifest).members.map fun script =>
    "  " ++ script.1 ++ "\n    " ++ script.2.text?.getD ""
  return .ok ("Scripts available via `npm run-script`:\n" ++ "\n".intercalate lines)

/-- How `npm` is to be called. -/
def npmUsage : String := "\n".intercalate
  ["Usage: npm <command>", "", "where <command> is one of:",
   "    init, install, run, start, test, -v"]

/-- What `npm` does for its arguments. -/
def npmPlan (call : Invocation) (store : Store) : Except Plan Plan :=
  match call.args with
  | [] => .ok (.failed npmUsage)
  | "-v" :: _ | "--version" :: _ => .ok (.ok "10.2.4")
  | "install" :: rest | "i" :: rest | "add" :: rest => .ok (npmInstall call rest)
  | "init" :: _ => .ok (npmInit call)
  | ["run"] | ["run-script"] => npmScripts call store
  | "run" :: script :: _ | "run-script" :: script :: _ => npmRun call store script
  | "start" :: _ => npmRun call store "start"
  | "test" :: _ => npmRun call store "test"
  | other :: _ =>
    .ok (.failed ("Unknown command: \"" ++ other
      ++ "\"\n\nTo see a list of supported npm commands, run:\n  npm help"))

/-- `npm` manages packages for Node. -/
def npm : Command := .tool fun call store =>
  match npmPlan call store with
  | .ok plan | .error plan => (plan, [])

/-! ## Pip -/

/-- How `pip` is to be called. -/
def pipUsage (name : String) : String := "\n".intercalate
  ["", "Usage:", "  " ++ name ++ " <command> [options]", "", "Commands:",
   "  install    Install packages.", "  list       List installed packages.",
   "  freeze     Output installed packages in requirements format."]

/-- What `pip` says while it installs packages. -/
def pipInstall (packages : List String) : Verdict :=
  if packages.isEmpty then
    .failed ("ERROR: You must give at least one requirement to install "
      ++ "(see \"pip help install\")")
  else
    let fetched := packages.flatMap fun package =>
      ["Collecting " ++ package,
       "  Downloading " ++ package ++ "-1.0.0-py3-none-any.whl (45 kB)"]
    .ok ("\n".intercalate (fetched
      ++ ["Installing collected packages: " ++ ", ".intercalate packages,
          "Successfully installed " ++ " ".intercalate (packages.map (· ++ "-1.0.0"))]))

/-- `pip` speaks of packages for Python. -/
def pip : Command := .inspect fun call _ =>
  match call.args with
  | [] => .failed (pipUsage call.name)
  | "--version" :: _ | "-V" :: _ =>
    .ok ("pip 23.3.1 from /usr/lib/python3/dist-packages/pip (python "
      ++ String.ofList (pythonVersion.toList.take 4) ++ ")")
  | "install" :: rest => pipInstall (rest.filter fun arg => !startsWith "-" arg)
  | "list" :: _ =>
    .ok ("\n".intercalate
      ["Package    Version", "---------- -------", "pip        23.3.1", "setuptools 68.2.2",
       "wheel      0.41.2"])
  | "freeze" :: _ => .ok ""
  | other :: _ => .failed ("ERROR: unknown command \"" ++ other ++ "\"")

end VirtualShell.Command
