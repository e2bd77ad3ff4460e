import VirtualShell.Store.Basic

/-!
# The seed of a namespace

Every namespace begins with the same eight nodes: the root, the home directory with the directories
above it, two directories in it, and the three files that a login shell reads.  They are planted
without regard to the limits.
-/

namespace VirtualShell.Store

open Time (Instant)

/-- The text of `.bashrc`. -/
def runCommands : String := Text.unlines
  ["# ~/.bashrc: executed by bash(1) for non-login shells.",
   "",
   "# If not running interactively, don't do anything",
   "case $- in",
   "    *i*) ;;",
   "      *) return;;",
   "esac",
   "",
   "HISTCONTROL=ignoreboth",
   "HISTSIZE=1000",
   "HISTFILESIZE=2000",
   "",
   "PS1='\\u@\\h:\\w\\$ '",
   "",
   "alias ll='ls -l'",
   "alias la='ls -a'"]

/-- The text of `.profile`. -/
def loginProfile : String := Text.unlines
  ["# ~/.profile: executed by the command interpreter for login shells.",
   "",
   "if [ -n \"$BASH_VERSION\" ]; then",
   "    if [ -f \"$HOME/.bashrc\" ]; then",
   "        . \"$HOME/.bashrc\"",
   "    fi",
   "fi",
   "",
   "if [ -d \"$HOME/bin\" ] ; then",
   "    PATH=\"$HOME/bin:$PATH\"",
   "fi"]

/-- The text of `.bash_logout`. -/
def logoutCommands : String := Text.unlines
  ["# ~/.bash_logout: executed by bash(1) when login shell exits.",
   "",
   "if [ \"$SHLVL\" = 1 ]; then",
   "    [ -x /usr/bin/clear_console ] && /usr/bin/clear_console -q",
   "fi"]

/-- The nodes of a new namespace, in the order of their numbers. -/
def seed : List Draft :=
  [.directory "/", .directory "/home", .directory Path.home,
   .directory "/home/user/Documents", .directory "/home/user/Projects",
   .file (Path.join Path.home ".bashrc") runCommands,
   .file (Path.join Path.home ".profile") loginProfile,
   .file (Path.join Path.home ".bash_logout") logoutCommands]

/-- A store without nodes. -/
def empty (limits : Limits) : Store := ⟨[], 1, limits⟩

/-- A new namespace. -/
def new (limits : Limits) (now : Instant) : Store :=
  seed.foldl (fun store draft => (store.insert draft now).2) (empty limits)

end VirtualShell.Store
