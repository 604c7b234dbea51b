import ProcessAccounting.Snapshot.Usage
import ProcessAccounting.Warning

/-!
# Monitors

A monitor keeps the snapshots of one tree from poll to poll.  A poll that fails
publishes an empty snapshot and leaves no other trace: the next successful poll
takes its ages from the last successful one.
-/

namespace ProcessAccounting

/-- What one poll of a source gave. -/
structure Poll where
  units : Units
  /-- All processes that it saw, or why it saw none. -/
  outcome : Except Report (List ProcessRecord)
  takenAt : Instant

/-- The snapshots of one tree from poll to poll. -/
structure Monitor where
  root : Pid
  /-- The snapshot published last. -/
  current : Snapshot
  /-- The snapshot that a refresh published before that. -/
  previous : Option Snapshot
  /-- The snapshot of the last successful poll. -/
  baseline : Snapshot
  /-- The number of refreshes, which comes round to 0 after 2 ^ 64 of them. -/
  refreshes : UInt64

namespace Monitor

/-- A monitor before its first refresh, with an empty snapshot. -/
def new (root : Pid) (units : Units) (now : Instant) : Monitor :=
  let placeholder := Snapshot.empty root units now
  { root, current := placeholder, previous := none, baseline := placeholder, refreshes := 0 }

def nextSnapshot (m : Monitor) (poll : Poll) : Snapshot :=
  match poll.outcome with
  | .ok records => m.baseline.refreshed records poll.units poll.takenAt
  | .error _ => .empty m.root poll.units poll.takenAt

def warnings (poll : Poll) : List Warning :=
  match poll.outcome with
  | .ok _ => []
  | .error report => [.pollFailed report]

def refresh (m : Monitor) (poll : Poll) : Monitor :=
  let next := m.nextSnapshot poll
  { root := m.root
    current := next
    previous := if m.refreshes = 0 then m.previous else some m.current
    baseline := if poll.outcome.isOk then next else m.baseline
    refreshes := m.refreshes + 1 }

/-- Processor usage over the last refresh, in percent of one processor. -/
def usage? (m : Monitor) : Option Float := m.previous.bind m.current.usageSince?

end Monitor

end ProcessAccounting
