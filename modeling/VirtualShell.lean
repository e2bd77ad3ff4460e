import VirtualShell.Main
import VirtualShell.Proofs.Shell.FailedTools
import VirtualShell.Store.InPlace
import VirtualShell.Proofs.Store.InPlace
import VirtualShell.Proofs.Store.Carry
import VirtualShell.Proofs.Store.Relocation
import VirtualShell.Proofs.Store.Footprint
import VirtualShell.Proofs.Shell.Survival
import VirtualShell.Proofs.Shell.WorkingDirectory
import VirtualShell.Proofs.Store.Bounds
import VirtualShell.Proofs.Shell.Isolation
import VirtualShell.Proofs.Shell.ReportedDirectory
import VirtualShell.Proofs.Log.Policy
import VirtualShell.Proofs.Effect.Refusal
import VirtualShell.Proofs.Command.Verdicts
import VirtualShell.Proofs.Shell.Events
import VirtualShell.Proofs.Command.Events
import VirtualShell.Proofs.Shell.Secrets
import VirtualShell.Proofs.Store.Creation
import VirtualShell.Proofs.Store.Lineage
import VirtualShell.Proofs.Shell.Sessions
import VirtualShell.Proofs.Shell.ControlCharacters
import VirtualShell.Proofs.Path.Resolve
import VirtualShell.Proofs.Path.Subtree
import VirtualShell.Proofs.Text.ByteOrder
import VirtualShell.Proofs.Store.Listing
import VirtualShell.Proofs.Command.Copy
import VirtualShell.Proofs.Shell.Copying
import VirtualShell.Proofs.Text.Pieces
import VirtualShell.Proofs.Mode.Grammar
import VirtualShell.Proofs.Mode.Bits
import VirtualShell.Proofs.Command.Chmod
import VirtualShell.Proofs.Shell.Modes
import VirtualShell.Proofs.Text.Unspaced
import VirtualShell.Proofs.Path.Unspaced
import VirtualShell.Proofs.Path.Behind
import VirtualShell.Proofs.Url.Unspaced
import VirtualShell.Proofs.Store.Unspaced
import VirtualShell.Proofs.Command.Unspaced
import VirtualShell.Proofs.Shell.Unspaced
import VirtualShell.Proofs.Command.Find
import VirtualShell.Proofs.Shell.Finding
import VirtualShell.Proofs.Command.Archive
import VirtualShell.Proofs.Shell.Archiving
import VirtualShell.Proofs.Log.Credentials
import VirtualShell.Proofs.Command.RemoteNames
import VirtualShell.Proofs.Shell.RemoteNames
import VirtualShell.Proofs.Store.Upsert
import VirtualShell.Proofs.Command.Operands
import VirtualShell.Command.Beside
import VirtualShell.Proofs.Path.Ancestors
import VirtualShell.Proofs.Command.Directories
import VirtualShell.Proofs.Command.Echo
import VirtualShell.Proofs.Shell.Echoing
import VirtualShell.Proofs.Command.Grep
import VirtualShell.Proofs.Shell.Searching
import VirtualShell.Proofs.Shell.Reports
import VirtualShell.Proofs.Json.Compact
import VirtualShell.Proofs.Frontend.Serving
import VirtualShell.Proofs.Json.Reading
import VirtualShell.Proofs.Command.Manifest
import VirtualShell.Proofs.Shell.Manifests
import VirtualShell.Proofs.Command.Script
import VirtualShell.Proofs.Log.Truncation
