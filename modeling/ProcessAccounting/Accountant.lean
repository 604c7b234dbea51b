import ProcessAccounting.Source

/-!
# Accountants

A monitor together with the source it is fed from.
-/

namespace ProcessAccounting

/-- Accounts for the tree of one root. -/
structure Accountant where
  source : Source
  monitor : Monitor

namespace Accountant

/-- An accountant that has not polled its source yet. -/
def new (root : Pid) (source : Source) (now : Instant) : Accountant :=
  { source, monitor := .new root source.units now }

/-- An accountant over a proc directory. -/
def ofConfig (root : Pid) (system : Proc.SystemUnits) (directory : Proc.Directory)
    (config : Config) (now : Instant) : Except Fault Accountant := do
  let reader ← Proc.Reader.ofConfig system config
  return new root (.proc reader directory) now

def capabilities (a : Accountant) : Capabilities := a.source.units.capabilities

/-- Polls the source and publishes the snapshot that follows. -/
def refresh (a : Accountant) (now : Instant) : Accountant × List Warning :=
  let (poll, source) := a.source.poll now
  ({ source, monitor := a.monitor.refresh poll }, Monitor.warnings poll)

end Accountant

end ProcessAccounting
