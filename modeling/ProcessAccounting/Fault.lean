import ProcessAccounting.ProcessRecord
import ProcessAccounting.Text.Quoted

/-!
# Faults

The causes for which processes cannot be accounted for, their wording, and whether
another attempt could succeed.
-/

namespace ProcessAccounting

/-- Why processes cannot be accounted for. -/
inductive Fault where
  /-- The source of processes cannot be read at all. -/
  | sourceUnavailable (path reason : String)
  /-- The entry of one process cannot be read. -/
  | unreadable (pid : Pid) (reason : String)
  /-- The entry of one process may not be read. -/
  | denied (pid : Pid) (reason : String)
  | gone (pid : Pid)
  /-- The entry of one process has been read but makes no sense. -/
  | malformed (pid : Pid) (message : String)
  /-- The configuration contradicts itself or any system. -/
  | misconfigured (reason : String)
deriving DecidableEq

namespace Fault

def message : Fault → String
  | sourceUnavailable path reason =>
    "Process information source " ++ Text.quoted path ++ " is unavailable: " ++ reason
  | unreadable pid reason => s!"Cannot read process {pid.toNat}: " ++ reason
  | denied pid reason => s!"Permission denied reading process {pid.toNat}: " ++ reason
  | gone pid => s!"Process {pid.toNat} is gone"
  | malformed pid message => s!"Cannot parse process {pid.toNat}: " ++ message
  | misconfigured reason => "Invalid configuration: " ++ reason

/-- Whether another attempt could succeed.  A process that has ended does not come
back, and permissions do not change between two attempts. -/
def isTransient : Fault → Bool
  | unreadable .. | malformed .. => true
  | _ => false

def isDenied : Fault → Bool
  | denied .. => true
  | _ => false

end Fault

/-- A fault with notes on where it arose. -/
structure Report where
  cause : Fault
  notes : List String := []
deriving DecidableEq

end ProcessAccounting
