import VirtualShell.Command.Machine

/-!
# Monitors

`top`, `ps`, `df` and `free` lay out one set of system figures as tables.  Each of them draws a new
set, so two calls in a row may disagree; the processes they show are always the same six.
-/

namespace VirtualShell.Command

open Text

/-! ## Processes -/

/-- A process of the simulated machine. -/
structure Process where
  pid : Nat
  user : String
  command : String
  deriving DecidableEq, Repr

namespace Process

/-- The processes that are always running. -/
def table : List Process :=
  [⟨1, "root", "systemd"⟩, ⟨412, "root", "sshd"⟩, ⟨733, "root", "cron"⟩, ⟨1021, userName, "bash"⟩,
   ⟨1187, userName, "node"⟩, ⟨1290, userName, "python3"⟩]

/-- Virtual memory, in kibibytes. -/
def virtualSize (process : Process) : Nat := 168000 + process.pid * 64

/-- Resident memory, in kibibytes. -/
def residentSize (process : Process) : Nat := 12000 + process.pid * 8

/-- Shared memory, in kibibytes. -/
def sharedSize (process : Process) : Nat := 8000 + process.pid * 2

/-- The share of the memory in percent. -/
def memoryShare (process : Process) : Float := Float.ofNat (process.pid % 50) / 10.0

/-- The time on the processor: minutes, seconds and hundredths. -/
def processorTime (process : Process) : String :=
  toString (process.pid / 600) ++ ":" ++ zeroPadded 2 (process.pid / 10 % 60) ++ "."
    ++ zeroPadded 2 (process.pid % 100)

end Process

/-- A figure with one place, at the right end of a column. -/
def tenths (width : Nat) (x : Float) : String := padLeft width (Decimal.fixed 1 x)

/-- A count with one place, at the right end of a column. -/
def wholeTenths (width n : Nat) : String := tenths width (Float.ofNat n)

/-! ## Top -/

/-- The memory that caches hold, in mebibytes. -/
def cacheSize (figures : Metrics) : Nat := figures.memoryFree / 4

/-- The lines above the table of processes. -/
def topSummary (now : Time.Instant) (figures : Metrics) : List String :=
  let two := zeroPadded 2
  let load := Decimal.fixed 2
  let user := Metrics.toTenths (figures.cpuPercent * 0.8)
  let system := Metrics.toTenths figures.cpuPercent - user
  let cache := cacheSize figures
  ["top - " ++ two now.hour ++ ":" ++ two now.minute ++ ":" ++ two now.second ++ " up "
      ++ figures.uptimeText ++ ",  1 user,  load average: " ++ load figures.load.1 ++ ", "
      ++ load figures.load.2.1 ++ ", " ++ load figures.load.2.2,
   "Tasks: " ++ toString figures.processCount ++ " total,   1 running, "
      ++ toString (figures.processCount - 1) ++ " sleeping,   0 stopped,   0 zombie",
   "%Cpu(s): " ++ tenths 4 user ++ " us, " ++ tenths 4 system ++ " sy,  0.0 ni, "
      ++ tenths 4 (100.0 - figures.cpuPercent)
      ++ " id,  0.0 wa,  0.0 hi,  0.0 si,  0.0 st",
   "MiB Mem : " ++ wholeTenths 8 figures.memoryTotal ++ " total, "
      ++ wholeTenths 8 (figures.memoryFree - cache) ++ " free, "
      ++ wholeTenths 8 figures.memoryUsed ++ " used, " ++ wholeTenths 8 cache ++ " buff/cache",
   "MiB Swap: " ++ wholeTenths 8 Metrics.swapSize ++ " total, "
      ++ wholeTenths 8 (Metrics.swapSize - figures.swapUsed) ++ " free, "
      ++ wholeTenths 8 figures.swapUsed ++ " used. " ++ wholeTenths 8 figures.memoryFree
      ++ " avail Mem",
   "",
   "    PID USER      PR  NI    VIRT    RES    SHR S  %CPU  %MEM     TIME+ COMMAND"]

/-- A process in the table of `top`; those of the user take three times the load of the others. -/
def topRow (figures : Metrics) (process : Process) : String :=
  let share := figures.cpuPercent / Float.ofNat Process.table.length
  let cpu := if process.user = userName then share * 1.5 else share * 0.5
  padLeft 7 (toString process.pid) ++ " " ++ padRight 9 process.user ++ " 20   0 "
    ++ padLeft 7 (toString process.virtualSize) ++ " "
    ++ padLeft 6 (toString process.residentSize) ++ " "
    ++ padLeft 6 (toString process.sharedSize) ++ " S " ++ tenths 5 cpu ++ " "
    ++ tenths 5 process.memoryShare ++ " " ++ padLeft 9 process.processorTime ++ " "
    ++ process.command

/-- `top` shows the load of the machine and its processes. -/
def top : Command := .monitor fun call draws =>
  let (figures, draws) := Metrics.draw draws
  (.ok ("\n".intercalate (topSummary call.now figures ++ Process.table.map (topRow figures))),
    draws)

/-! ## Ps -/

/-- Whether an argument of `ps` asks for all processes. -/
def asksForAll (arg : String) : Bool :=
  (trimStartMatches (· = '-') arg).toList.any "auxef".toList.contains

/-- A process in the table of `ps`. -/
def psRow (figures : Metrics) (process : Process) : String :=
  let terminal := if process.user = userName then "pts/0" else "?"
  padRight 8 process.user ++ " " ++ padLeft 7 (toString process.pid) ++ " "
    ++ tenths 4 (figures.cpuPercent / 20.0) ++ " " ++ tenths 4 process.memoryShare ++ " "
    ++ padLeft 6 (toString process.virtualSize) ++ " "
    ++ padLeft 5 (toString process.residentSize) ++ " " ++ padRight 8 terminal
    ++ " Ss   09:00   0:" ++ zeroPadded 2 (process.pid % 60) ++ " " ++ process.command

/-- The processes of the terminal alone. -/
def psShort : String := "\n".intercalate
  ["    PID TTY          TIME CMD",
   "   1021 pts/0    00:00:00 bash",
   "   1402 pts/0    00:00:00 ps"]

/-- All processes, the listing itself included. -/
def psLong (figures : Metrics) (args : List String) : String :=
  let itself := padRight 8 userName ++ " " ++ padLeft 7 "1402"
    ++ "  0.0  0.0   7060  1600 pts/0    R+   09:00   0:00 ps " ++ " ".intercalate args
  "\n".intercalate
    ("USER         PID %CPU %MEM    VSZ   RSS TTY      STAT START   TIME COMMAND"
      :: Process.table.map (psRow figures) ++ [itself])

/-- `ps` lists processes. -/
def ps : Command := .monitor fun call draws =>
  if call.args.any asksForAll then
    let (figures, draws) := Metrics.draw draws
    (.ok (psLong figures call.args), draws)
  else (.ok psShort, draws)

/-! ## Df -/

/-- A file system with its sizes in gibibytes. -/
structure FileSystem where
  device : String
  total : Nat
  used : Nat
  mount : String

/-- The file systems of the machine. -/
def fileSystems (figures : Metrics) : List FileSystem :=
  [⟨"/dev/sda1", figures.diskTotal, figures.diskUsed, "/"⟩,
   ⟨"tmpfs", figures.memoryTotal / 2 / 1024, 0, "/dev/shm"⟩,
   ⟨"/dev/sda15", 1, 0, "/boot/efi"⟩]

/-- A file system in the table of `df`. -/
def dfRow (human : Bool) (system : FileSystem) : String :=
  let size (n : Nat) : String := if human then toString n ++ "G" else toString (n * 1024 * 1024)
  let widths : Nat × Nat := if human then (5, 5) else (10, 9)
  padRight 14 system.device ++ " " ++ padLeft widths.1 (size system.total) ++ " "
    ++ padLeft widths.2 (size system.used) ++ " "
    ++ padLeft widths.2 (size (system.total - system.used)) ++ " "
    ++ padLeft 3 (toString (system.used * 100 / system.total)) ++ "% " ++ system.mount

/-- `df` shows the file systems. -/
def df : Command := .monitor fun call draws =>
  match flagsOr call "hHkT" with
  | .error verdict => (verdict, draws)
  | .ok arguments =>
    let (figures, draws) := Metrics.draw draws
    let human := arguments.flags.contains 'h' || arguments.flags.contains 'H'
    let heading :=
      if human then "Filesystem      Size  Used Avail Use% Mounted on"
      else "Filesystem     1K-blocks      Used Available Use% Mounted on"
    (.ok ("\n".intercalate (heading :: (fileSystems figures).map (dfRow human))), draws)

/-! ## Free -/

/-- The units in which `free` counts. -/
inductive MemoryUnit where
  | kibi
  | mebi
  | gibi
  /-- Whichever is easy to read. -/
  | human
  deriving DecidableEq, Repr

namespace MemoryUnit

/-- The unit that flags choose: the last of them counts. -/
def ofFlags (flags : List Char) : MemoryUnit :=
  match flags.getLast? with
  | some 'h' => human
  | some 'm' => mebi
  | some 'g' => gibi
  | _ => kibi

/-- A size in mebibytes, written in a unit. -/
def text (mebibytes : Nat) : MemoryUnit → String
  | kibi => toString (mebibytes * 1024)
  | mebi => toString mebibytes
  | gibi => toString (mebibytes / 1024)
  | human =>
    if 1024 ≤ mebibytes then Decimal.fixed 1 (Float.ofNat mebibytes / 1024.0) ++ "Gi"
    else toString mebibytes ++ "Mi"

end MemoryUnit

/-- A row of the table of `free`: the first cell is a little wider than the others. -/
def freeRow (label : String) (cells : List String) : String :=
  label ++ " ".intercalate (cells.map (padLeft 11))

/-- The table of `free`. -/
def freeTable (figures : Metrics) (unit : MemoryUnit) : String :=
  let cache := cacheSize figures
  let row (label : String) (sizes : List Nat) : String :=
    freeRow label (sizes.map fun size => unit.text size)
  "\n".intercalate
    [freeRow "    " ["total", "used", "free", "shared", "buff/cache", "available"],
     row "Mem:   "
       [figures.memoryTotal, figures.memoryUsed, figures.memoryFree - cache,
        figures.memoryTotal / 64, cache, figures.memoryFree],
     row "Swap:  "
       [Metrics.swapSize, figures.swapUsed, Metrics.swapSize - figures.swapUsed]]

/-- `free` shows the memory. -/
def free : Command := .monitor fun call draws =>
  match flagsOr call "hmgk" with
  | .error verdict => (verdict, draws)
  | .ok arguments =>
    let (figures, draws) := Metrics.draw draws
    (.ok (freeTable figures (.ofFlags arguments.flags)), draws)

end VirtualShell.Command
