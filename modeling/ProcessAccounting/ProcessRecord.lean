import ProcessAccounting.Saturating
import Std.Data.ExtTreeMap

/-!
# Processes

One process as seen at one instant, and collections of processes by pid.  A pid
may be used again after its process has ended, so the identity of a process is
its pid together with its start time.
-/

namespace ProcessAccounting

/-- The number by which the system knows a process while it runs. -/
abbrev Pid := UInt32

/-- One process at one instant. -/
structure ProcessRecord where
  pid : Pid
  parent : Pid := 0
  group : Pid := 0
  session : Pid := 0
  name : String := ""
  /-- Its arguments, empty when they could not be read. -/
  commandLine : String := ""
  virtualMemory : UInt64 := 0
  /-- Its resident memory in bytes, 0 when that is not accounted. -/
  residentMemory : UInt64 := 0
  userTicks : UInt64 := 0
  systemTicks : UInt64 := 0
  /-- When it started, which tells apart two processes that had the same pid. -/
  startTime : Option UInt64 := none
  /-- Over how many earlier polls in a row it has been seen. -/
  age : UInt32 := 0
deriving DecidableEq

/-- All clock ticks that a process has spent. -/
def ProcessRecord.cpuTicks (p : ProcessRecord) : UInt64 :=
  Saturating.add p.userTicks p.systemTicks

/-- Two observations are of the same process when pid and start time agree.  An
unknown start time agrees only with another unknown one. -/
def ProcessRecord.IsSame (p q : ProcessRecord) : Prop :=
  p.pid = q.pid ∧ p.startTime = q.startTime

instance (p q : ProcessRecord) : Decidable (p.IsSame q) :=
  inferInstanceAs (Decidable (p.pid = q.pid ∧ p.startTime = q.startTime))

namespace ProcessRecord.IsSame

theorem refl (p : ProcessRecord) : p.IsSame p := ⟨rfl, rfl⟩

theorem symm {p q : ProcessRecord} (h : p.IsSame q) : q.IsSame p := ⟨h.1.symm, h.2.symm⟩

theorem trans {p q r : ProcessRecord} (h : p.IsSame q) (h' : q.IsSame r) : p.IsSame r :=
  ⟨h.1.trans h'.1, h.2.trans h'.2⟩

end ProcessRecord.IsSame

/-- Processes by pid, in ascending order of the pids. -/
abbrev Members := Std.ExtTreeMap Pid ProcessRecord

/-- The processes of a list under their own pids; of several with one pid the last
one counts. -/
def Members.ofList (records : List ProcessRecord) : Members :=
  records.foldl (fun members p => members.insert p.pid p) ∅

/-- The last process of the list with a pid is the one found under it. -/
theorem Members.getElem?_ofList (records : List ProcessRecord) (pid : Pid) :
    (Members.ofList records)[pid]? = records.reverse.find? (·.pid == pid) := by
  have general (members : Members) :
      (records.foldl (fun members p => members.insert p.pid p) members)[pid]? =
        (records.reverse.find? (·.pid == pid)).or members[pid]? := by
    induction records generalizing members with
    | nil => simp
    | cons p records ih =>
      rw [List.foldl_cons, ih, Std.ExtTreeMap.getElem?_insert, List.reverse_cons,
        List.find?_append]
      by_cases h : p.pid = pid <;> simp [h]
  simpa [Members.ofList] using general ∅

end ProcessAccounting
