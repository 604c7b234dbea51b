import ProcessAccounting.Document
import ProcessAccounting.Fault

/-!
# Configuration

What the user decides about the source of processes.  A configuration comes from a
document, either a record in which every field may be missing or a list of the
values in the order of the fields, and is then checked for values that no system
would have.
-/

namespace ProcessAccounting

/-- What the user decides. -/
structure Config where
  procDirectory : String := "/proc"
  /-- The page size in bytes, asked from the system when unset. -/
  pageSize : Option UInt64 := none
  /-- Clock ticks per second, asked from the system when unset. -/
  tickRate : Option UInt64 := none
  /-- How often a read is repeated that may succeed another time. -/
  retries : UInt32 := 2
  /-- The name of the implementation, left to the platform when unset. -/
  implementation : Option String := none
deriving DecidableEq

namespace Config

/-- The names of the fields in documents, in their order. -/
def fieldNames : List String :=
  ["procfsDir", "pageSize", "clockTicksPerSecond", "readRetries", "implementation"]

def text? : Document → Option String
  | .text value => some value
  | _ => none

/-- The integer in a document, if it is not negative and below the limit. -/
def natural? (limit : Nat) : Document → Option Nat
  | .integer value => if 0 ≤ value ∧ value < limit then some value.toNat else none
  | _ => none

def word? (value : Document) : Option UInt64 := (natural? UInt64.size value).map .ofNat

def nullable? {α : Type} (read : Document → Option α) : Document → Option (Option α)
  | .null => some none
  | value => (read value).map some

/-- Sets a field to a value from a document.  A value of the wrong kind is refused, and
a field that nobody knows is passed over. -/
def setField (config : Config) (name : String) (value : Document) : Option Config :=
  match name with
  | "procfsDir" => (text? value).map ({ config with procDirectory := · })
  | "pageSize" => (nullable? word? value).map ({ config with pageSize := · })
  | "clockTicksPerSecond" => (nullable? word? value).map ({ config with tickRate := · })
  | "readRetries" =>
    (natural? UInt32.size value).map ({ config with retries := .ofNat · })
  | "implementation" => (nullable? text? value).map ({ config with implementation := · })
  | _ => some config

def ofDocument? : Document → Option Config
  | .null => some {}
  | .record fields => fields.foldlM (fun config field => config.setField field.1 field.2) {}
  | .list values =>
    if values.length ≤ fieldNames.length then
      (fieldNames.zip values).foldlM (fun config field => config.setField field.1 field.2) {}
    else none
  | _ => none

/-- The reason why no system would have these values, if there is one. -/
def contradiction? (config : Config) : Option String :=
  if config.pageSize = some 0 then some "pageSize must be greater than zero"
  else if config.tickRate = some 0 then some "clockTicksPerSecond must be greater than zero"
  else if config.procDirectory = "" then some "procfsDir must not be empty"
  else none

def validate (config : Config) : Except Fault Unit :=
  match config.contradiction? with
  | some reason => .error (.misconfigured reason)
  | none => .ok ()

end Config

end ProcessAccounting
