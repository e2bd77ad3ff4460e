import VirtualShell.Command.Basic
import VirtualShell.Text.Numeral

/-!
# The session's own commands

`history` lists the lines typed in the session, itself included; `clear` asks the front end to
forget what it shows; `help` lists what there is.
-/

namespace VirtualShell.Command

open Text

/-- `clear` asks the front end to wipe the screen. -/
def clear : Command := .inspect fun _ _ => .ok clearScreen

/-- Lines with their numbers from one, without the first `skip` of them. -/
def historyText (lines : List String) (skip : Nat) : String :=
  "\n".intercalate (((lines.zipIdx 1).drop skip).map fun line =>
    padLeft 5 (toString line.2) ++ "  " ++ line.1)

/-- `history` lists the lines of the session, or the last so many of them. -/
def history : Command := .inspect fun call _ =>
  let lines := call.session.history
  match call.args with
  | [] => .ok (historyText lines 0)
  | count :: _ =>
    match number? unbounded count with
    | some n => .ok (historyText lines (lines.length - n))
    | none => .failed ("history: " ++ count ++ ": numeric argument required")

/-- What `help` prints. -/
def helpText : String := "\n".intercalate
  ["Available commands:",
   "",
   "Navigation & files",
   "  pwd                         Print the working directory",
   "  cd [DIR | ~ | - | ..]       Change the working directory",
   "  ls [-l] [-a] [-1] [PATH]    List directory contents",
   "  mkdir [-p] DIR...           Create directories",
   "  touch FILE...               Create empty files",
   "  cat [-n] FILE               Print file contents",
   "  echo TEXT [> FILE]          Print text, or write it with > / >>",
   "  rm [-rf] PATH...            Remove files and directories",
   "  cp [-r] SRC DEST            Copy files and directories",
   "  mv SRC DEST                 Move or rename",
   "  chmod MODE PATH...          Change permissions (755, u+x, rwxr-xr-x)",
   "  find [PATH] [-name PAT] [-type f|d]",
   "                              Search for files",
   "  grep [-inv] PATTERN FILE    Print lines containing PATTERN",
   "",
   "Development",
   "  git clone|init|status|add|commit|push|pull|log|branch",
   "  python, python3 [FILE]      Run a Python script",
   "  node [FILE]                 Run a JavaScript file",
   "  javac FILE.java             Compile Java source",
   "  java CLASS                  Run a compiled Java class",
   "  gcc, g++ [-o OUT] FILE      Compile C/C++ source",
   "  npm install|init|run        Node package manager",
   "  pip, pip3 install|list      Python package manager",
   "  nano, vim, vi FILE          View a file in an editor",
   "",
   "Network",
   "  curl [-I] [-o FILE] URL     Fetch a URL",
   "  wget [-O FILE] URL          Download a URL to a file",
   "  ssh [USER@]HOST             Connect to a remote host",
   "  scp SRC DEST                Copy to or from a remote host",
   "  rsync SRC DEST              Synchronize files",
   "",
   "System",
   "  top, htop                   Show system activity",
   "  ps [aux]                    List processes",
   "  df [-h]                     Show disk usage",
   "  free [-h|-m]                Show memory usage",
   "  uname [-a]                  Print system information",
   "  whoami, hostname, date      Print user, host name, current time",
   "",
   "Archives",
   "  tar -c|-x|-t [-vzf] ARCHIVE [FILE...]",
   "  zip ARCHIVE FILE...         Create a zip archive",
   "  unzip ARCHIVE               Extract a zip archive",
   "",
   "Session",
   "  history                     Show command history",
   "  clear                       Clear the screen",
   "  help                        Show this help"]

/-- `help` prints the list of commands. -/
def help : Command := .inspect fun _ _ => .ok helpText

end VirtualShell.Command
