import ProcessAccounting.Snapshot.Basic
import ProcessAccounting.Duration

/-!
# Totals over a snapshot

Memory and processor time of all members together.  Memory can be asked for the
members above an age, which leaves out processes that have only just appeared.
What the source cannot account for is 0.
-/

namespace ProcessAccounting.Snapshot

/-- Whether an age threshold lets a process through: 0 lets all through, and any
other threshold those that are older. -/
def isCounted (threshold : UInt32) (p : ProcessRecord) : Bool :=
  threshold == 0 || threshold < p.age

/-- The processes that count at an age threshold. -/
def counted (s : Snapshot) (threshold : UInt32) : List ProcessRecord :=
  s.processes.filter (isCounted threshold)

/-- Virtual memory in bytes of the processes that count at an age threshold. -/
def virtualMemory (s : Snapshot) (threshold : UInt32) : UInt64 :=
  Saturating.sum ((s.counted threshold).map (·.virtualMemory))

/-- Resident memory in bytes of the processes that count at an age threshold. -/
def residentMemory (s : Snapshot) (threshold : UInt32) : UInt64 :=
  if s.units.capabilities.residentMemory then
    Saturating.sum ((s.counted threshold).map (·.residentMemory))
  else 0

def cpuTicks (s : Snapshot) : UInt64 := Saturating.sum (s.processes.map (·.cpuTicks))

/-- The time that a number of clock ticks takes, zero without a tick rate. -/
def ticksToTime (s : Snapshot) (ticks : UInt64) : Duration :=
  match s.units.tickRate with
  | some rate => (Duration.ofTicks? ticks rate).getD .zero
  | none => .zero

/-- Processor time that the members have spent since each of them started. -/
def cpuTime (s : Snapshot) : Duration :=
  if s.units.capabilities.cpuTime then s.ticksToTime s.cpuTicks else .zero

end ProcessAccounting.Snapshot
