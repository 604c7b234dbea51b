import ProcessAccounting.ProcessRecord
import ProcessAccounting.Proc.Errno

/-!
# Proc directories

A proc directory as its readers experience it.  It can be listed, and of each entry
two files can be opened.  The system goes on while it is read, so a file may answer
differently each time it is opened; the directory therefore holds the successive
answers of each file, and remembers which files have been opened.
-/

namespace ProcessAccounting.Proc

/-- The two files of an entry that are read. -/
inductive FileKind where
  | stat
  | commandLine
deriving DecidableEq

abbrev Response := Except Errno (List UInt8)

structure Entry where
  name : List UInt8
  listed : Bool := true
  /-- The successive answers of its stat file; none at all means no such file. -/
  stat : List Response := []
  commandLine : List Response := []

def Entry.responses (entry : Entry) : FileKind → List Response
  | .stat => entry.stat
  | .commandLine => entry.commandLine

/-- The name of the entry of a process: its pid in decimal. -/
def entryName (pid : Pid) : List UInt8 :=
  (Nat.toDigits 10 pid.toNat).map fun c => c.toNat.toUInt8

structure Directory where
  /-- Its entries in the order of the listing. -/
  entries : List Entry := []
  listingFault : Option Errno := none
  /-- An error after the last entry of the listing, if there is one. -/
  endFault : Option Errno := none
  /-- The files opened so far, the latest first. -/
  opened : List (Pid × FileKind) := []

namespace Directory

/-- Lists the directory: the names of the entries and the errors in between. -/
def listing (d : Directory) : Except Errno (List (Except Errno (List UInt8))) :=
  match d.listingFault with
  | some errno => .error errno
  | none =>
    .ok ((d.entries.filter (·.listed)).map (.ok ·.name) ++ d.endFault.toList.map .error)

/-- The successive answers of a file of a process: those of the first entry with its
name that has the file. -/
def responses (d : Directory) (pid : Pid) (file : FileKind) : List Response :=
  (((d.entries.filter (·.name == entryName pid)).map (·.responses file)).find?
    (!·.isEmpty)).getD []

/-- The answer to opening a file for the `k`-th time, counted from 0.  The last answer
is given again and again, and a file without answers does not exist. -/
def response (answers : List Response) (k : Nat) : Response :=
  (answers[k]?.or answers.getLast?).getD (.error Errno.noSuchFile)

def timesOpened (d : Directory) (pid : Pid) (file : FileKind) : Nat :=
  d.opened.count (pid, file)

def access (d : Directory) (pid : Pid) (file : FileKind) : Response × Directory :=
  (response (d.responses pid file) (d.timesOpened pid file),
    { d with opened := (pid, file) :: d.opened })

end Directory

end ProcessAccounting.Proc
