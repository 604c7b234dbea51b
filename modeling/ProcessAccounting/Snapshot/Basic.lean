import ProcessAccounting.Subtree
import ProcessAccounting.Age
import ProcessAccounting.Duration

/-!
# Snapshots

The tree of one root as one poll saw it.  A snapshot is never changed; each poll
makes the next one from the last, which gives the ages.
-/

namespace ProcessAccounting

/-- A point on the monotonic clock: the time that has passed since the clock started. -/
abbrev Instant := Duration

/-- Which measurements a source of processes can account for. -/
structure Capabilities where
  /-- Whether the resident memory of its processes means anything. -/
  residentMemory : Bool := true
  /-- Whether the rate of its clock ticks is known. -/
  cpuTime : Bool := true
deriving DecidableEq

/-- What a source says about its measurements. -/
structure Units where
  capabilities : Capabilities
  tickRate : Option UInt64
deriving DecidableEq

/-- The tree of one root at one instant. -/
structure Snapshot where
  root : Pid
  members : Members
  units : Units
  takenAt : Instant

namespace Snapshot

/-- A snapshot without members: the root is not alive, or nothing could be read. -/
def empty (root : Pid) (units : Units) (takenAt : Instant) : Snapshot :=
  { root, members := ∅, units, takenAt }

/-- The next snapshot, from all processes that a poll has read: the subtree of the
root, with the ages carried over. -/
def refreshed (previous : Snapshot) (records : List ProcessRecord) (units : Units)
    (takenAt : Instant) : Snapshot :=
  { root := previous.root
    members := carryAges previous.members (subtree previous.root records)
    units
    takenAt }

/-- The processes of the tree, in ascending order of their pids. -/
def processes (s : Snapshot) : List ProcessRecord := s.members.values

/-- The pids of the tree, in ascending order. -/
def pids (s : Snapshot) : List Pid := s.members.keys

def size (s : Snapshot) : Nat := s.members.size

def get? (s : Snapshot) (pid : Pid) : Option ProcessRecord := s.members[pid]?

/-- Whether the root is alive and leads its own process group. -/
def rootLeadsGroup (s : Snapshot) : Bool :=
  match s.get? s.root with
  | some p => p.group == p.pid
  | none => false

end Snapshot

end ProcessAccounting
