import VirtualShell.Command.Archive
import VirtualShell.Command.Compiler
import VirtualShell.Command.Content
import VirtualShell.Command.Date
import VirtualShell.Command.Editor
import VirtualShell.Command.Files
import VirtualShell.Command.Git
import VirtualShell.Command.Grep
import VirtualShell.Command.Listing
import VirtualShell.Command.Monitor
import VirtualShell.Command.Navigation
import VirtualShell.Command.Network
import VirtualShell.Command.Terminal
import VirtualShell.Shell.Interpreter

/-!
# The commands of a new shell

Every shell begins with the same commands.  Some have several names, and tell them apart only in
what they print.
-/

namespace VirtualShell

/-- The host name of a shell that was given none. -/
def defaultHostname : String := "simsh"

/-- The commands of a new shell by name. -/
def Registry.builtin : Registry :=
  [("pwd", Command.pwd), ("cd", Command.cd), ("ls", Command.ls), ("find", Command.find),
   ("mkdir", Command.mkdir), ("touch", Command.touch), ("cat", Command.cat),
   ("echo", Command.echo), ("rm", Command.rm), ("cp", Command.cp), ("mv", Command.mv),
   ("chmod", Command.chmod), ("grep", Command.grep),
   ("git", Command.git),
   ("python", Command.python), ("python3", Command.python), ("node", Command.node),
   ("java", Command.java), ("javac", Command.javac), ("gcc", Command.gcc), ("g++", Command.gcc),
   ("npm", Command.npm), ("pip", Command.pip), ("pip3", Command.pip),
   ("nano", Command.editor), ("vim", Command.editor), ("vi", Command.editor),
   ("curl", Command.curl), ("wget", Command.wget), ("ssh", Command.ssh), ("scp", Command.scp),
   ("rsync", Command.rsync),
   ("top", Command.top), ("htop", Command.top), ("ps", Command.ps), ("df", Command.df),
   ("free", Command.free), ("uname", Command.uname), ("whoami", Command.whoami),
   ("hostname", Command.hostname), ("date", Command.date),
   ("tar", Command.tar), ("zip", Command.zip), ("unzip", Command.unzip),
   ("clear", Command.clear), ("help", Command.help), ("history", Command.history)]

/-- What the sessions share in a shell that was told nothing. -/
def Interpreter.usual : Interpreter := ⟨.builtin, defaultHostname, {}, .plain⟩

end VirtualShell
