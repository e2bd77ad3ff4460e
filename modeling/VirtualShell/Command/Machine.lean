import VirtualShell.Command.Basic

/-!
# Who and where

The machine that a session sees is made up: it has one user, a fixed kernel and the host name that
the shell was given.  Nothing here depends on the machine that the shell runs on.
-/

namespace VirtualShell.Command

open Text

/-- The user of every session. -/
def userName : String := "user"

/-! ## Uname -/

/-- The facts that `uname` tells, in the order in which it tells them. -/
inductive Fact where
  | kernel
  | node
  | release
  | version
  | machine
  | system
  deriving DecidableEq, Repr

namespace Fact

/-- All facts, in order. -/
def all : List Fact := [kernel, node, release, version, machine, system]

/-- What a fact says on a host. -/
def text (hostname : String) : Fact → String
  | kernel => "Linux"
  | node => hostname
  | release => "6.5.0-simsh"
  | version => "#1 SMP PREEMPT_DYNAMIC"
  | machine => "x86_64"
  | system => "GNU/Linux"

/-- The facts that an option asks for. -/
def ofOption? : String → Option (List Fact)
  | "-a" | "--all" => some all
  | "-s" | "--kernel-name" => some [kernel]
  | "-n" | "--nodename" => some [node]
  | "-r" | "--kernel-release" => some [release]
  | "-v" | "--kernel-version" => some [version]
  | "-m" | "--machine" => some [machine]
  | "-o" | "--operating-system" => some [system]
  | _ => none

/-- The facts that options ask for, or the first option that there is not. -/
def ofOptions : List String → Except String (List Fact)
  | [] => .ok []
  | option :: rest =>
    match ofOption? option with
    | none => .error option
    | some facts => do
      let more ← ofOptions rest
      return facts ++ more

end Fact

/-- `uname` tells about the machine; about the kernel if nothing is asked for. -/
def uname : Command := .inspect fun call _ =>
  match Fact.ofOptions call.args with
  | .error option =>
    .failed ("uname: invalid option -- " ++ quoted (trimStartMatches (· = '-') option))
  | .ok asked =>
    let asked := if asked.isEmpty then [.kernel] else asked
    .ok (" ".intercalate ((Fact.all.filter asked.contains).map (Fact.text call.hostname)))

/-! ## Identity -/

/-- `whoami` tells the user's name. -/
def whoami : Command := .inspect fun _ _ => .ok userName

/-- `hostname` tells the name of the host, and refuses to change it. -/
def hostname : Command := .inspect fun call _ =>
  if call.args.isEmpty then .ok call.hostname
  else .failed "hostname: you must be root to change the host name"

end VirtualShell.Command
