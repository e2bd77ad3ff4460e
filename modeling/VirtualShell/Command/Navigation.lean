import VirtualShell.Command.Basic

/-!
# Where a session stands

`pwd` shows the working directory and `cd` changes it: to a directory, to the home directory when
none is named, or back to the one before when a hyphen is.
-/

namespace VirtualShell.Command

/-- `pwd` shows the working directory. -/
def pwd : Command := .inspect fun call _ => .ok call.cwd

/-- The directory that an operand of `cd` names; going back also shows the directory. -/
def cdTarget (call : Invocation) (operand : String) : Except Verdict (String × String) :=
  if operand = "-" then
    match call.session.previous with
    | some dir => .ok (dir, dir)
    | none => .error (.failed "cd: OLDPWD not set")
  else .ok (call.resolve operand, "")

/-- Changes to the directory that an operand names. -/
def cdTo (call : Invocation) (store : Store) (operand : String) : Verdict × Option String :=
  match cdTarget call operand with
  | .error verdict => (verdict, none)
  | .ok (dir, shown) =>
    match store.get? dir with
    | none => (.failed ("cd: no such file or directory: " ++ operand), none)
    | some node =>
      if node.isDirectory then (.ok shown, some dir)
      else (.failed ("cd: not a directory: " ++ operand), none)

/-- `cd` changes the working directory. -/
def cd : Command := .navigate fun call store =>
  match call.args with
  | [] => cdTo call store Path.home
  | [operand] => cdTo call store operand
  | _ => (.failed "cd: too many arguments", none)

end VirtualShell.Command
