import VirtualShell.Command.Basic
import VirtualShell.Permissions

/-!
# Making, removing, copying and moving

Commands with several operands treat them one after the other: each is attempted on the namespace
as the one before left it, and what failed is gathered.  A copy takes over what the source held
when the command began.
-/

namespace VirtualShell.Command

open Text

/-- Attempts an action on each operand in turn and gathers the complaints. -/
def forEachOperand (act : Store → String → Option String × Store) :
    List String → Store → List String × Store
  | [], store => ([], store)
  | operand :: rest, store =>
    let (complaint, store) := act store operand
    let (more, store) := forEachOperand act rest store
    (complaint.toList ++ more, store)

/-- The verdict on all operands. -/
def gathered (outcome : List String × Store) : Verdict × Store :=
  (.reply (.gather outcome.1), outcome.2)

/-! ## Mkdir -/

/-- Makes sure of a directory at each of some paths, in order, up to the first that fails. -/
def makeChain (now : Time.Instant) : List String → Store → Except Failure Unit × Store
  | [], store => (.ok (), store)
  | path :: rest, store =>
    match store.get? path with
    | some node =>
      if node.isDirectory then makeChain now rest store else (.error (.alreadyExists path), store)
    | none =>
      match store.create (.directory path) now with
      | .ok (_, store) => makeChain now rest store
      | .error failure => (.error failure, store)

/-- The paths from just below the root down to a path. -/
def pathChain (path : String) : List String :=
  ((Path.selfAndAncestors path).filter (· ≠ "/")).reverse

/-- Makes a directory and all that are missing above it. -/
def makeWithParents (store : Store) (path : String) (now : Time.Instant) :
    Except Failure Unit × Store :=
  makeChain now (pathChain path) store

/-- Makes one directory. -/
def makeDirectory (store : Store) (path : String) (now : Time.Instant) :
    Except Failure Unit × Store :=
  match store.create (.directory path) now with
  | .ok (_, store) => (.ok (), store)
  | .error failure => (.error failure, store)

/-- One operand of `mkdir`. -/
def mkdirOperand (call : Invocation) (parents : Bool) (store : Store) (operand : String) :
    Option String × Store :=
  let make := if parents then makeWithParents else makeDirectory
  match make store (call.resolve operand) call.now with
  | (.ok (), store) => (none, store)
  | (.error failure, store) =>
    (some ("mkdir: cannot create directory " ++ quoted operand ++ ": " ++ failure.message), store)

/-- `mkdir` makes directories, with `-p` also those above them. -/
def mkdir : Command := .edit fun call store =>
  match flagsOr call "p" with
  | .error verdict => (verdict, store)
  | .ok ⟨_, []⟩ => (.failure (.missingOperand "operand"), store)
  | .ok ⟨flags, operands⟩ =>
    gathered (forEachOperand (mkdirOperand call (flags.contains 'p')) operands store)

/-! ## Touch -/

/-- One operand of `touch`. -/
def touchOperand (call : Invocation) (store : Store) (operand : String) : Option String × Store :=
  let path := call.resolve operand
  let outcome :=
    if store.contains path then store.update path {} call.now
    else store.create (.file path "") call.now
  match outcome with
  | .ok (_, store) => (none, store)
  | .error failure =>
    (some ("touch: cannot touch " ++ quoted operand ++ ": " ++ failure.message), store)

/-- `touch` makes empty files and renews the times of nodes that are there. -/
def touch : Command := .edit fun call store =>
  match call.args.filter fun arg => !startsWith "-" arg with
  | [] => (.failure (.missingOperand "file operand"), store)
  | operands => gathered (forEachOperand (touchOperand call) operands store)

/-! ## Rm -/

/-- One operand of `rm`. -/
def rmOperand (call : Invocation) (force : Bool) (store : Store) (operand : String) :
    Option String × Store :=
  let path := call.resolve operand
  if path = "/" then (some "rm: it is dangerous to operate recursively on '/'", store)
  else
    match store.delete path with
    | some store => (none, store)
    | none =>
      (if force then none
       else some ("rm: cannot remove " ++ quoted operand ++ ": No such file or directory"), store)

/-- `rm` removes nodes and all below them. -/
def rm : Command := .edit fun call store =>
  match flagsOr call "rRf" with
  | .error verdict => (verdict, store)
  | .ok ⟨_, []⟩ => (.failure (.missingOperand "operand"), store)
  | .ok ⟨flags, operands⟩ =>
    gathered (forEachOperand (rmOperand call (flags.contains 'f')) operands store)

/-! ## From one place to another -/

/-- A source and the place it goes to. -/
structure Transfer where
  /-- The operands as typed. -/
  sourceOperand : String
  targetOperand : String
  source : Node
  target : String

/-- The place that a target operand names: inside it if it is a directory. -/
def transferTarget (store : Store) (source : Node) (path : String) : String :=
  if store.isDirectory path then Path.join path source.name else path

/-- Reads the two operands of `cp` or `mv`. -/
def transferOf (call : Invocation) (store : Store) (name : String) :
    List String → Except Verdict Transfer
  | [] => .error (.failed (name ++ ": missing file operand"))
  | [source] =>
    .error (.failed (name ++ ": missing destination file operand after " ++ quoted source))
  | [source, target] =>
    match store.get? (call.resolve source) with
    | none =>
      .error (.failed
        (name ++ ": cannot stat " ++ quoted source ++ ": No such file or directory"))
    | some node =>
      let path := transferTarget store node (call.resolve target)
      if node.path = path then
        .error (.failed
          (name ++ ": " ++ quoted source ++ " and " ++ quoted target ++ " are the same file"))
      else .ok ⟨source, target, node, path⟩
  | _ :: _ :: extra :: _ => .error (.failed (name ++ ": extra operand " ++ quoted extra))

/-- Writes a copy of a node at a path. -/
def copyNode (now : Time.Instant) (node : Node) (target : String) (store : Store) :
    Except Failure Unit × Store :=
  let draft : Draft :=
    match node.body with
    | .directory => .directory target
    | .file content => .file target content
  match store.upsert draft now with
  | .error failure => (.error failure, store)
  | .ok (_, store) =>
    match store.update target ⟨none, some node.permissions⟩ now with
    | .error failure => (.error failure, store)
    | .ok (_, store) => (.ok (), store)

/-- Writes copies of nodes at their places under a target, up to the first that fails. -/
def copyNodes (now : Time.Instant) (source target : String) :
    List Node → Store → Except Failure Unit × Store
  | [], store => (.ok (), store)
  | node :: rest, store =>
    match copyNode now node (Path.rebase node.path source target) store with
    | (.ok (), store) => copyNodes now source target rest store
    | (.error failure, store) => (.error failure, store)

/-- Copies a node and all below it; the order of paths puts a directory before what it holds. -/
def copyTree (now : Time.Instant) (source : Node) (target : String) (store : Store) :
    Except Failure Unit × Store :=
  let inside := if source.isDirectory then store.descendants source.path else []
  copyNodes now source.path target (source :: inside) store

/-- Carries out a copy. -/
def copyTransfer (call : Invocation) (store : Store) (transfer : Transfer) : Verdict × Store :=
  if transfer.source.isDirectory && Path.isBelow transfer.target transfer.source.path then
    (.failed ("cp: cannot copy a directory, " ++ quoted transfer.sourceOperand
      ++ ", into itself, " ++ quoted transfer.targetOperand), store)
  else
    match copyTree call.now transfer.source transfer.target store with
    | (.ok (), store) => (.ok "", store)
    | (.error failure, store) =>
      (.failed ("cp: cannot create " ++ quoted transfer.targetOperand ++ ": "
        ++ failure.message), store)

/-- `cp` copies a file or a whole directory. -/
def cp : Command := .edit fun call store =>
  match flagsOr call "rRpf" >>= fun arguments => transferOf call store "cp" arguments.operands with
  | .error verdict => (verdict, store)
  | .ok transfer => copyTransfer call store transfer

/-- Carries out a move. -/
def moveTransfer (call : Invocation) (store : Store) (transfer : Transfer) : Verdict × Store :=
  match store.rename transfer.source.path transfer.target call.now with
  | .ok store => (.ok "", store)
  | .error (.unsupported reason) => (.failed ("mv: " ++ reason), store)
  | .error failure =>
    (.failed ("mv: cannot move " ++ quoted transfer.sourceOperand ++ " to "
      ++ quoted transfer.targetOperand ++ ": " ++ failure.message), store)

/-- `mv` moves a node and all below it. -/
def mv : Command := .edit fun call store =>
  match flagsOr call "f" >>= fun arguments => transferOf call store "mv" arguments.operands with
  | .error verdict => (verdict, store)
  | .ok transfer => moveTransfer call store transfer

/-! ## Chmod -/

/-- Applies a mode to operands in turn.  An operand that is not there is a complaint; a mode that is
none ends the command at the first operand that is. -/
def chmodOperands (call : Invocation) (mode : String) :
    List String → Store → Except Verdict (List String) × Store
  | [], store => (.ok [], store)
  | operand :: rest, store =>
    let path := call.resolve operand
    match store.get? path with
    | none =>
      let complaint := "chmod: cannot access " ++ quoted operand ++ ": No such file or directory"
      let (more, store) := chmodOperands call mode rest store
      (more.map (complaint :: ·), store)
    | some node =>
      match changedPermissions? node.permissions node.isDirectory mode with
      | none => (.error (.failed ("chmod: invalid mode: " ++ quoted mode)), store)
      | some permissions =>
        match store.update path ⟨none, some permissions⟩ call.now with
        | .error failure => (.error (.failure failure), store)
        | .ok (_, store) => chmodOperands call mode rest store

/-- `chmod` changes the permissions of nodes. -/
def chmod : Command := .edit fun call store =>
  match call.args with
  | [] => (.failure (.missingOperand "operand"), store)
  | [mode] => (.failed ("chmod: missing operand after " ++ quoted mode), store)
  | mode :: operands =>
    match chmodOperands call mode operands store with
    | (.ok complaints, store) => (.reply (.gather complaints), store)
    | (.error verdict, store) => (verdict, store)

end VirtualShell.Command
