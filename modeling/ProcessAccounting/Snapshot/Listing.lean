import ProcessAccounting.Snapshot.Totals

/-!
# Listings of a snapshot

Two texts for people: the pids on one line, and a table with a header and one row
for each member.
-/

namespace ProcessAccounting.Snapshot

/-- The pids in brackets, each followed by a blank. -/
def summary (s : Snapshot) : String :=
  "[ " ++ String.join (s.pids.map fun pid => pid.toNat.repr ++ " ") ++ "]"

def header : String :=
  "\t|- PID PPID PGRPID SESSID CMD_NAME USER_MODE_TIME(MILLIS) SYSTEM_TIME(MILLIS) " ++
    "VMEM_USAGE(BYTES) RSSMEM_USAGE(BYTES) FULL_CMD_LINE\n"

def row (s : Snapshot) (p : ProcessRecord) : String :=
  let columns :=
    [p.pid.toNat.repr, p.parent.toNat.repr, p.group.toNat.repr, p.session.toNat.repr,
      "(" ++ p.name ++ ")", (s.ticksToTime p.userTicks).millis.repr,
      (s.ticksToTime p.systemTicks).millis.repr, p.virtualMemory.toNat.repr,
      p.residentMemory.toNat.repr, p.commandLine]
  "\t|- " ++ " ".intercalate columns ++ "\n"

/-- The table of all members, in ascending order of their pids. -/
def table (s : Snapshot) : String := header ++ String.join (s.processes.map s.row)

end ProcessAccounting.Snapshot
