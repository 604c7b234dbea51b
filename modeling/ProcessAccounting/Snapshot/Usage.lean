import ProcessAccounting.Snapshot.Totals

/-!
# Processor usage between two snapshots

The clock ticks that the members have spent since an earlier snapshot, and their
share of one processor over the time between the two.
-/

namespace ProcessAccounting.Snapshot

/-- The ticks that a member has spent since the earlier snapshot: the increase when
the same process was a member then, and all its ticks otherwise. -/
def ticksOf (earlier : Snapshot) (p : ProcessRecord) : UInt64 :=
  match earlier.get? p.pid with
  | some old => if old.IsSame p then Saturating.sub p.cpuTicks old.cpuTicks else p.cpuTicks
  | none => p.cpuTicks

def ticksSince (s earlier : Snapshot) : UInt64 :=
  Saturating.sum (s.processes.map earlier.ticksOf)

/-- The time since the earlier snapshot, if it is indeed earlier. -/
def elapsedSince? (s earlier : Snapshot) : Option Duration :=
  (s.takenAt.sub? earlier.takenAt).filter (· ≠ .zero)

/-- The tick rate and the time by which the ticks since the earlier snapshot are
divided.  There is none when processor time is not accounted for or no time has
passed. -/
def usageDivisors? (s earlier : Snapshot) : Option (UInt64 × Duration) :=
  if s.units.capabilities.cpuTime then
    match s.units.tickRate, s.elapsedSince? earlier with
    | some rate, some elapsed => some (rate, elapsed)
    | _, _ => none
  else none

/-- Processor usage since the earlier snapshot, in percent of one processor. -/
def usageSince? (s earlier : Snapshot) : Option Float :=
  (s.usageDivisors? earlier).map fun (rate, elapsed) =>
    (s.ticksSince earlier).toFloat / rate.toFloat / elapsed.toFloat * 100.0

end ProcessAccounting.Snapshot
