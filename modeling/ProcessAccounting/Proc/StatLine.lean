import ProcessAccounting.ProcessRecord
import ProcessAccounting.Text.Blank
import ProcessAccounting.Text.Cut
import ProcessAccounting.Text.Numeral
import ProcessAccounting.Text.Quoted

/-!
# Stat lines

The line in which the proc file system describes one process: its pid, the name of
its command in parentheses, and then fields between blanks.  The name is free text
and may hold blanks and parentheses itself, so it reaches from the first opening to
the last closing parenthesis of the line.
-/

namespace ProcessAccounting.Proc

/-- The fields after the name that accounting needs. -/
inductive StatField where
  | parent
  | group
  | session
  | userTicks
  | systemTicks
  | startTime
  | virtualMemory
  | residentPages
deriving DecidableEq

namespace StatField

/-- The place of a field after the name, counted from 0. -/
def index : StatField → Nat
  | parent => 1
  | group => 2
  | session => 3
  | userTicks => 11
  | systemTicks => 12
  | startTime => 19
  | virtualMemory => 20
  | residentPages => 21

def label : StatField → String
  | parent => "ppid"
  | group => "pgrp"
  | session => "session"
  | userTicks => "utime"
  | systemTicks => "stime"
  | startTime => "starttime"
  | virtualMemory => "vsize"
  | residentPages => "rss"

end StatField

namespace StatLine

inductive Fault where
  /-- There is no opening parenthesis with a closing one after it. -/
  | unenclosedName
  | invalidPid (fault : Text.Numeral.Fault)
  | otherPid (found : Pid)
  | tooFewFields (found : Nat)
  | invalidField (field : StatField) (text : String) (fault : Text.Numeral.Fault)
deriving DecidableEq

def requiredFields : Nat := StatField.residentPages.index + 1

def Fault.message : Fault → String
  | unenclosedName => "command name is not enclosed in parentheses"
  | invalidPid fault => "invalid pid field: " ++ fault.message
  | otherPid found => s!"stat belongs to pid {found.toNat}"
  | tooFewFields found => s!"expected at least {requiredFields} fields, found {found}"
  | invalidField field text fault =>
    "invalid " ++ field.label ++ " field " ++ Text.quoted text ++ ": " ++ fault.message

/-- A line taken apart: what stands before the name, the name, and the fields after
it. -/
structure Parts where
  /-- What stands before the first opening parenthesis. -/
  before : List Char
  name : List Char
  /-- The words after the last closing parenthesis. -/
  fields : List (List Char)
deriving DecidableEq

/-- Takes a line apart at the parentheses around the name. -/
def split (line : List Char) : Except Fault Parts :=
  match Text.cutFirst? '(' line with
  | none => .error .unenclosedName
  | some (before, rest) =>
    match Text.cutLast? ')' rest with
    | none => .error .unenclosedName
    | some (name, after) => .ok { before, name, fields := Text.words after }

namespace Parts

/-- The text of a field, empty if the line ends before it. -/
def text (parts : Parts) (field : StatField) : List Char :=
  parts.fields[field.index]?.getD []

def pidAt (parts : Parts) (field : StatField) : Except Fault Pid :=
  (Text.Numeral.readUInt32 (parts.text field)).mapError
    (.invalidField field (.ofList (parts.text field)))

def wordAt (parts : Parts) (field : StatField) : Except Fault UInt64 :=
  (Text.Numeral.readUInt64 (parts.text field)).mapError
    (.invalidField field (.ofList (parts.text field)))

def checkPid (parts : Parts) (pid : Pid) : Except Fault Unit := do
  let found ← (Text.Numeral.readUInt32 (Text.trim parts.before)).mapError .invalidPid
  if found = pid then .ok () else .error (.otherPid found)

def checkLength (parts : Parts) : Except Fault Unit :=
  if requiredFields ≤ parts.fields.length then .ok ()
  else .error (.tooFewFields parts.fields.length)

def process (parts : Parts) (pid : Pid) (pageSize : Option UInt64) :
    Except Fault ProcessRecord := do
  let pages ← parts.wordAt .residentPages
  let parent ← parts.pidAt .parent
  let group ← parts.pidAt .group
  let session ← parts.pidAt .session
  let virtualMemory ← parts.wordAt .virtualMemory
  let userTicks ← parts.wordAt .userTicks
  let systemTicks ← parts.wordAt .systemTicks
  let startTime ← parts.wordAt .startTime
  return {
    pid, parent, group, session
    name := .ofList parts.name
    virtualMemory
    residentMemory := (pageSize.map (Saturating.mul pages)).getD 0
    userTicks, systemTicks
    startTime := some startTime }

end Parts

/-- Reads the stat line of the process with the given pid.  Resident memory is
counted in pages, so without a page size it is 0. -/
def read (pid : Pid) (pageSize : Option UInt64) (line : List Char) :
    Except Fault ProcessRecord := do
  let parts ← split line
  parts.checkPid pid
  parts.checkLength
  parts.process pid pageSize

end StatLine

end ProcessAccounting.Proc
