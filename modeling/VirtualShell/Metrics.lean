import VirtualShell.Decimal

/-!
# System figures

The simulated machine has a load, a memory, a disk and an age, which `top`, `ps`, `df` and `free`
report.  They are drawn from a stream of random numbers, so a session learns nothing about the
machine it runs on, and the same stream gives the same report.

* `Draws` — the stream, in millionths of the unit interval; when it is used up it goes on with
  halves.
* `Metrics.draw` — eight draws, in a fixed order, make one set of figures.
* the derived figures: what is free, what share is used, and the age in words.
-/

namespace VirtualShell

/-! ## Random draws -/

/-- The random numbers still to come, in millionths. -/
abbrev Draws := List Nat

namespace Draws

/-- The next number of the stream; one half when it is used up. -/
def next : Draws → Nat × Draws
  | [] => (500000, [])
  | d :: rest => (d, rest)

/-- A whole number of the half-open range from `low` to `high`. -/
def whole (low high : Nat) (draws : Draws) : Nat × Draws :=
  let (d, rest) := draws.next
  (low + (high - low) * d / 1000000, rest)

/-- A floating-point number of the half-open range from `low` to `high`. -/
def real (low high : Float) (draws : Draws) : Float × Draws :=
  let (d, rest) := draws.next
  (low + (high - low) * (Float.ofNat d / 1000000.0), rest)

end Draws

/-! ## One set of figures -/

/-- One set of system figures. -/
structure Metrics where
  cpuPercent : Float := 0
  /-- Mebibytes. -/
  memoryTotal : Nat := 0
  /-- Mebibytes. -/
  memoryUsed : Nat := 0
  /-- Mebibytes. -/
  swapUsed : Nat := 0
  /-- Gibibytes. -/
  diskTotal : Nat := 0
  /-- Gibibytes. -/
  diskUsed : Nat := 0
  processCount : Nat := 0
  /-- Seconds. -/
  uptime : Nat := 0
  /-- The load over one, five and fifteen minutes. -/
  load : Float × Float × Float := (0, 0, 0)

namespace Metrics

/-- The memory of the simulated machine, in mebibytes. -/
def memorySize : Nat := 16384

/-- The swap space of the simulated machine, in mebibytes. -/
def swapSize : Nat := 2048

/-- The disk of the simulated machine, in gibibytes. -/
def diskSize : Nat := 256

/-- How much of the disk is used, in gibibytes. -/
def diskInUse : Nat := 87

/-- A figure rounded to tenths, a half going away from zero. -/
def toTenths (x : Float) : Float := (x * 10.0).round / 10.0

/-- A figure rounded to hundredths, a half going away from zero. -/
def toHundredths (x : Float) : Float := (x * 100.0).round / 100.0

/-- Eight draws make one set of figures. -/
def draw (draws : Draws) : Metrics × Draws :=
  let (cpu, draws) := draws.real 2.0 85.0
  let (memory, draws) := draws.whole (memorySize / 5) (memorySize * 4 / 5)
  let (swap, draws) := draws.whole 0 (swapSize / 8)
  let (processes, draws) := draws.whole 120 260
  let (uptime, draws) := draws.whole 600 (30 * 86400)
  let (one, draws) := draws.real 0.8 1.2
  let (five, draws) := draws.real 0.7 1.1
  let (fifteen, draws) := draws.real 0.6 1.0
  let load := cpu / 25.0
  ({ cpuPercent := toTenths cpu
     memoryTotal := memorySize
     memoryUsed := memory
     swapUsed := swap
     diskTotal := diskSize
     diskUsed := diskInUse
     processCount := processes
     uptime := uptime
     load := (toHundredths (load * one), toHundredths (load * five),
       toHundredths (load * fifteen)) },
   draws)

/-! ## Derived figures -/

/-- The share of a total in percent, rounded to hundredths; nothing has no share. -/
def percent (used total : Nat) : Float :=
  if total = 0 then 0 else toHundredths (Float.ofNat used * 100.0 / Float.ofNat total)

/-- The free memory in mebibytes. -/
def memoryFree (m : Metrics) : Nat := m.memoryTotal - m.memoryUsed

/-- The used share of the memory. -/
def memoryPercent (m : Metrics) : Float := percent m.memoryUsed m.memoryTotal

/-- The free disk space in gibibytes. -/
def diskFree (m : Metrics) : Nat := m.diskTotal - m.diskUsed

/-- The used share of the disk. -/
def diskPercent (m : Metrics) : Float := percent m.diskUsed m.diskTotal

/-- The age of the machine in days, hours and minutes. -/
def uptimeText (m : Metrics) : String :=
  let clock := toString (m.uptime % 86400 / 3600) ++ ":"
    ++ Text.zeroPadded 2 (m.uptime % 3600 / 60)
  match m.uptime / 86400 with
  | 0 => clock
  | 1 => "1 day, " ++ clock
  | days => toString days ++ " days, " ++ clock

end Metrics

end VirtualShell
