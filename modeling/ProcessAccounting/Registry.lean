import ProcessAccounting.Accountant
import ProcessAccounting.Platform

/-!
# Choosing an implementation

Constructors of accountants, kept by name.  The name asked for wins over the one in
the configuration, and without either the platform decides.  A choice never fails: it
is an accountant, or accounting is unavailable, and a warning says why when something
that was asked for could not be had.
-/

namespace ProcessAccounting

/-- The parts of the system that a constructor may need. -/
structure System where
  units : Proc.SystemUnits := {}
  directory : Proc.Directory := {}
  now : Instant := .zero

/-- A way to make an accountant for a root. -/
abbrev Constructor := System → Pid → Config → Except Fault Accountant

def Constructor.proc : Constructor := fun system root config =>
  Accountant.ofConfig root system.units system.directory config system.now

/-- What choosing an implementation leads to. -/
inductive Selection where
  | unavailable
  | tree (accountant : Accountant)

namespace Selection

def isAvailable : Selection → Bool
  | unavailable => false
  | tree _ => true

def summary : Selection → String
  | unavailable => "Unavailable"
  | tree accountant =>
    "Tree \x7b root_pid: " ++ accountant.monitor.root.toNat.repr ++ " \x7d"

end Selection

/-- A selection, with what a caller is told about it. -/
structure Choice where
  selection : Selection
  warnings : List Warning := []

namespace Choice

/-- What a constructor gives.  Its failure is a warning. -/
def ofConstructor (constructor : Constructor) (system : System) (root : Pid)
    (config : Config) : Choice :=
  match constructor system root config with
  | .ok accountant => { selection := .tree accountant }
  | .error cause =>
    { selection := .unavailable, warnings := [.constructionFailed root { cause }] }

/-- What the platform gives: the proc directory where there is one. -/
def ofPlatform (platform : Platform) (system : System) (root : Pid) (config : Config) :
    Choice :=
  match platform with
  | .linux => ofConstructor .proc system root config
  | .unsupported _ => { selection := .unavailable }

/-- What a constructor gives if there is one, and else the platform. -/
def ofConstructor? (constructor : Option Constructor) (platform : Platform) (system : System)
    (root : Pid) (config : Config) : Choice :=
  match constructor with
  | some constructor => ofConstructor constructor system root config
  | none => ofPlatform platform system root config

end Choice

structure Registry where
  constructors : Std.ExtTreeMap String Constructor

namespace Registry

def empty : Registry := ⟨∅⟩

def procName : String := "procfs"

/-- Puts a constructor under a name, in place of the one that was there. -/
def register (r : Registry) (name : String) (constructor : Constructor) : Registry :=
  ⟨r.constructors.insert name constructor⟩

/-- A registry with the constructors that every program has. -/
def builtin : Registry := empty.register procName .proc

def get? (r : Registry) (name : String) : Option Constructor := r.constructors[name]?

def names (r : Registry) : List String := r.constructors.keys

def summary (r : Registry) : String :=
  "TreeRegistry \x7b implementations: " ++ Text.quotedList r.names ++ " \x7d"

/-- Makes an accountant under the name asked for, else under the configured name, else
as the platform decides. -/
def create (r : Registry) (asked : Option String) (platform : Platform) (system : System)
    (root : Pid) (config : Config) : Choice :=
  match asked.or config.implementation with
  | none => .ofPlatform platform system root config
  | some name =>
    match r.get? name with
    | some constructor => .ofConstructor constructor system root config
    | none =>
      { selection := .unavailable, warnings := [.unknownImplementation name r.names] }

end Registry

end ProcessAccounting
