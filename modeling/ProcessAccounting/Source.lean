import ProcessAccounting.Monitor
import ProcessAccounting.Proc.Reader

/-!
# Sources of processes

Where a monitor gets its processes from: a proc directory with its reader, or a
recording that plays back polls made before.  Polling a source gives the poll and the
source as it is afterwards.
-/

namespace ProcessAccounting

/-- Polls to be played back. -/
structure Recording where
  tickRate : Option UInt64 := none
  /-- Whether resident memory means anything; it does when nothing is said. -/
  residentMemory : Option Bool := none
  polls : List (Except Fault (List ProcessRecord)) := []

namespace Recording

def units (r : Recording) : Units where
  capabilities :=
    { residentMemory := r.residentMemory.getD true, cpuTime := r.tickRate.isSome }
  tickRate := r.tickRate

/-- Plays back one poll.  A recording at its end fails. -/
def play (r : Recording) : Except Report (List ProcessRecord) × Recording :=
  match r.polls with
  | [] => (.error { cause := .sourceUnavailable "recording" "no poll is left" }, r)
  | poll :: polls => (poll.mapError fun cause => { cause }, { r with polls })

end Recording

/-- Where processes come from. -/
inductive Source where
  | proc (reader : Proc.Reader) (directory : Proc.Directory)
  | recording (player : Recording)

namespace Source

def units : Source → Units
  | proc reader _ => reader.units
  | recording player => player.units

/-- All processes that the source sees now, and the source afterwards. -/
def read : Source → Except Report (List ProcessRecord) × Source
  | proc reader directory =>
    let (outcome, directory) := reader.scan directory
    (outcome, proc reader directory)
  | recording player =>
    let (outcome, player) := player.play
    (outcome, recording player)

def poll (source : Source) (now : Instant) : Poll × Source :=
  let (outcome, after) := source.read
  ({ units := source.units, outcome, takenAt := now }, after)

end Source

end ProcessAccounting
