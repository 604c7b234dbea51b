import ProcessAccounting.ProcessRecord
import ProcessAccounting.Queue
import Std.Data.ExtTreeSet

/-!
# The subtree of a process

The members of the tree rooted at a pid are the processes that can be reached from
it by steps from parent to child.  The records come from a system that changes
while it is read, so parents may be missing, a record may name itself as its
parent, parents may form a circle, and a pid may occur more than once.  A
breadth-first search handles all of these alike: a pid enters the queue only when
it is seen for the first time.
-/

namespace ProcessAccounting

/-- The pids of the records that name each pid as their parent, in list order. -/
def childIndex (records : List ProcessRecord) : Std.ExtTreeMap Pid (List Pid) :=
  records.foldr (fun p index => index.insert p.parent (p.pid :: index[p.parent]?.getD [])) ∅

/-- The pids of the records whose parent is `pid`, in list order. -/
def childrenOf (records : List ProcessRecord) (pid : Pid) : List Pid :=
  (records.filter (·.parent == pid)).map (·.pid)

/-- The index holds the children of every pid. -/
theorem childIndex_getD (records : List ProcessRecord) (pid : Pid) :
    (childIndex records)[pid]?.getD [] = childrenOf records pid := by
  induction records with
  | nil => simp [childIndex, childrenOf]
  | cons p records ih =>
    have unfolded : childIndex (p :: records) =
        (childIndex records).insert p.parent
          (p.pid :: (childIndex records)[p.parent]?.getD []) := rfl
    rw [unfolded, Std.ExtTreeMap.getElem?_insert, childrenOf, List.filter_cons]
    by_cases h : p.parent = pid
    · subst h
      simp [ih, childrenOf]
    · simpa [h, childrenOf] using ih

/-- A breadth-first search in progress. -/
structure Search where
  /-- Pids that have been seen and not been taken yet. -/
  queue : Queue Pid
  /-- All pids that have ever entered the queue. -/
  seen : Std.ExtTreeSet Pid
  /-- The records of the pids that have not been taken yet. -/
  table : Members
  /-- The records of the pids that have been taken. -/
  found : Members

namespace Search

/-- The search before its first step. -/
def start (root : Pid) (table : Members) : Search where
  queue := .singleton root
  seen := (∅ : Std.ExtTreeSet Pid).insert root
  table := table
  found := ∅

/-- Puts a pid into the queue unless it has been there before. -/
def discover (s : Search) (pid : Pid) : Search :=
  if pid ∈ s.seen then s
  else { s with queue := s.queue.push pid, seen := s.seen.insert pid }

/-- Moves the record of a pid from the table to the records found. -/
def collect (s : Search) (pid : Pid) : Search :=
  match s.table[pid]? with
  | some p => { s with table := s.table.erase pid, found := s.found.insert pid p }
  | none => s

/-- Takes one pid from the queue: its children are discovered and its record is
collected. -/
def step (children : Pid → List Pid) (s : Search) : Search :=
  match s.queue.pop? with
  | some (pid, queue) => ((children pid).foldl discover { s with queue }).collect pid
  | none => s

/-- Takes up to `n` pids from the queue. -/
def advance (children : Pid → List Pid) : Nat → Search → Search
  | 0, s => s
  | n + 1, s => advance children n (s.step children)

end Search

/-- The processes that can be reached from `root` by steps from parent to child,
under their own pids.  There are none when no record has the root's pid.  Each step
of the search takes another record, so there are never more steps than records. -/
def subtree (root : Pid) (records : List ProcessRecord) : Members :=
  let table := Members.ofList records
  let index := childIndex records
  if root ∈ table then
    ((Search.start root table).advance (fun pid => index[pid]?.getD []) records.length).found
  else ∅

end ProcessAccounting
