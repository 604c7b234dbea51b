import ProcessAccounting.Config
import ProcessAccounting.Proc.CommandLine
import ProcessAccounting.Proc.Directory
import ProcessAccounting.Proc.StatLine
import ProcessAccounting.Snapshot.Basic

/-!
# Reading a proc directory

A reader turns a proc directory into processes.  Whatever happens to a single
process, the others are still read; only a directory that cannot be listed, or in
which nothing was found and something was denied, fails as a whole.
-/

namespace ProcessAccounting.Proc

/-- What the system answers when it is asked for its units; an answer that is not
positive means that it does not know. -/
structure SystemUnits where
  pageSize : Int64 := 4096
  tickRate : Int64 := 100

def positive? (answer : Int64) : Option UInt64 :=
  if 0 < answer then some answer.toUInt64 else none

inductive AccessFault where
  | refused (errno : Errno)
  /-- The path holds a zero character, so the system was not asked. -/
  | zeroInPath
deriving DecidableEq

def AccessFault.message : AccessFault → String
  | refused errno => errno.message
  | zeroInPath => "file name contained an unexpected NUL byte"

/-- What it means for a process that its stat file could not be read. -/
def AccessFault.toFault (pid : Pid) (fault : AccessFault) : Fault :=
  if fault = .refused Errno.noSuchFile ∨ fault = .refused Errno.noSuchProcess then .gone pid
  else if fault = .refused Errno.notPermitted ∨ fault = .refused Errno.permissionDenied then
    .denied pid fault.message
  else .unreadable pid fault.message

structure Reader where
  path : String
  pageSize : Option UInt64
  tickRate : Option UInt64
  /-- How often a read is repeated that may succeed another time. -/
  retries : UInt32
deriving DecidableEq

abbrev Outcome := Except Report ProcessRecord

namespace Reader

/-- Sets up a reader.  Units that the configuration leaves open are asked from the
system. -/
def ofConfig (system : SystemUnits) (config : Config) : Except Fault Reader := do
  config.validate
  return {
    path := config.procDirectory
    pageSize := config.pageSize.or (positive? system.pageSize)
    tickRate := config.tickRate.or (positive? system.tickRate)
    retries := config.retries }

/-- What the reader can measure: resident memory is counted in pages and processor time
in clock ticks, so each needs its unit. -/
def units (r : Reader) : Units where
  capabilities := { residentMemory := r.pageSize.isSome, cpuTime := r.tickRate.isSome }
  tickRate := r.tickRate

/-- Whether the system can be asked about the path at all. -/
def pathIsUsable (r : Reader) : Bool := !r.path.toList.contains '\x00'

def entryPath (r : Reader) (pid : Pid) : String :=
  let separator := if r.path.toList.getLast? = some '/' then "" else "/"
  r.path ++ separator ++ pid.toNat.repr

def access (r : Reader) (d : Directory) (pid : Pid) (file : FileKind) :
    Except AccessFault (List UInt8) × Directory :=
  if r.pathIsUsable then
    let (response, d) := d.access pid file
    (response.mapError .refused, d)
  else (.error .zeroInPath, d)

def pidOfEntry? : Except Errno (List UInt8) → Option Pid
  | .ok name => (Text.Numeral.readUInt32 (Text.Lossy.decode name)).toOption
  | .error _ => none

/-- The pids in the listing, in its order.  Entries that are no pids are passed over, and
so are errors in between. -/
def pids (r : Reader) (d : Directory) : Except Fault (List Pid) :=
  if r.pathIsUsable then
    match d.listing with
    | .ok entries => .ok (entries.filterMap pidOfEntry?)
    | .error errno => .error (.sourceUnavailable r.path errno.message)
  else .error (.sourceUnavailable r.path AccessFault.zeroInPath.message)

def interpret (r : Reader) (pid : Pid) (contents : List UInt8) : Outcome :=
  (StatLine.read pid r.pageSize (Text.Lossy.decode contents)).mapError fun fault =>
    { cause := .malformed pid fault.message
      notes := ["stat file under " ++ r.entryPath pid] }

/-- Reads a process.  Its command line is only read once its stat file makes sense, and
stays empty when it cannot be read. -/
def readOnce (r : Reader) (pid : Pid) (d : Directory) : Outcome × Directory :=
  match r.access d pid .stat with
  | (.error fault, d) => (.error { cause := fault.toFault pid }, d)
  | (.ok contents, d) =>
    match r.interpret pid contents with
    | .error report => (.error report, d)
    | .ok p =>
      match r.access d pid .commandLine with
      | (.ok raw, d) => (.ok { p with commandLine := CommandLine.text raw }, d)
      | (.error _, d) => (.ok p, d)

def isTransient : Outcome → Bool
  | .error report => report.cause.isTransient
  | .ok _ => false

/-- Reads a process, and reads again up to `n` times while that may help. -/
def readRepeatedly (r : Reader) (pid : Pid) : Nat → Directory → Outcome × Directory
  | 0, d => r.readOnce pid d
  | n + 1, d =>
    let (outcome, d) := r.readOnce pid d
    if isTransient outcome then r.readRepeatedly pid n d else (outcome, d)

/-- Reads a process as often as the reader is set up to. -/
def readProcess (r : Reader) (pid : Pid) (d : Directory) : Outcome × Directory :=
  r.readRepeatedly pid r.retries.toNat d

def readEach (r : Reader) : List Pid → Directory → List Outcome × Directory
  | [], d => ([], d)
  | pid :: rest, d =>
    let (outcome, d) := r.readProcess pid d
    let (outcomes, d) := r.readEach rest d
    (outcome :: outcomes, d)

def isDenied : Outcome → Bool
  | .error report => report.cause.isDenied
  | .ok _ => false

/-- What the outcomes of all processes amount to. -/
def summarise (r : Reader) (outcomes : List Outcome) :
    Except Report (List ProcessRecord) :=
  let found := outcomes.filterMap (·.toOption)
  let denied := outcomes.countP isDenied
  if found.isEmpty && 0 < denied then
    let reason := s!"permission denied for all {denied} listed processes"
    .error { cause := .sourceUnavailable r.path reason }
  else .ok found

def scan (r : Reader) (d : Directory) : Except Report (List ProcessRecord) × Directory :=
  match r.pids d with
  | .error fault => (.error { cause := fault }, d)
  | .ok pids =>
    let (outcomes, d) := r.readEach pids d
    (r.summarise outcomes, d)

end Reader

end ProcessAccounting.Proc
