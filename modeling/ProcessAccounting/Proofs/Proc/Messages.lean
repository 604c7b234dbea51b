import ProcessAccounting.Proc.StatLine
import ProcessAccounting.Proofs.Text.Quoted

/-!
# What is said of a stat line that is refused

The message of every fault, word for word: it names the check that was not passed and quotes
what was found instead.
-/

namespace ProcessAccounting

/-- The reason that is given when a text is no numeral below the limit. -/
inductive Text.Numeral.Fault.Says : Text.Numeral.Fault → String → Prop
  | empty : Says .empty "cannot parse integer from empty string"
  | invalidDigit : Says .invalidDigit "invalid digit found in string"
  | tooLarge : Says .tooLarge "number too large to fit in target type"

theorem Text.Numeral.Fault.says_iff {fault : Text.Numeral.Fault} {reason : String} :
    fault.Says reason ↔ reason = fault.message := by
  constructor
  · intro said
    cases said <;> rfl
  · rintro rfl
    cases fault with
    | empty => exact .empty
    | invalidDigit => exact .invalidDigit
    | tooLarge => exact .tooLarge

namespace Proc

/-- The names by which messages call the fields. -/
def StatField.labels : List (StatField × String) :=
  [(residentPages, "rss"), (parent, "ppid"), (group, "pgrp"), (session, "session"),
   (virtualMemory, "vsize"), (userTicks, "utime"), (systemTicks, "stime"),
   (startTime, "starttime")]

theorem StatField.mem_labels_iff {field : StatField} {label : String} :
    (field, label) ∈ labels ↔ label = field.label := by
  cases field <;> simp [labels, StatField.label]

namespace StatLine

/-- The message of a fault.  A text that should be a numeral is quoted, but not in front of
the name, where it can only be the pid. -/
inductive Says : Fault → String → Prop
  | unenclosedName : Says .unenclosedName "command name is not enclosed in parentheses"
  | invalidPid {fault : Text.Numeral.Fault} {reason : String} (given : fault.Says reason) :
      Says (.invalidPid fault) ("invalid pid field: " ++ reason)
  | otherPid {found : Pid} : Says (.otherPid found) ("stat belongs to pid " ++ found.toNat.repr)
  | tooFewFields {found : Nat} :
      Says (.tooFewFields found) ("expected at least 22 fields, found " ++ found.repr)
  | invalidField {field : StatField} {label text written reason : String}
      {fault : Text.Numeral.Fault} (labelled : (field, label) ∈ StatField.labels)
      (quotes : Text.Quotes text written) (given : fault.Says reason) :
      Says (.invalidField field text fault)
        ("invalid " ++ label ++ " field " ++ written ++ ": " ++ reason)

theorem says_message (fault : Fault) : Says fault fault.message := by
  cases fault with
  | unenclosedName => exact .unenclosedName
  | invalidPid fault => exact .invalidPid (Text.Numeral.Fault.says_iff.mpr rfl)
  | otherPid found => exact .otherPid
  | tooFewFields found => exact .tooFewFields
  | invalidField field text fault =>
    exact .invalidField (StatField.mem_labels_iff.mpr rfl) (Text.quotes_iff.mpr rfl)
      (Text.Numeral.Fault.says_iff.mpr rfl)

/-- Every fault has one message. -/
theorem says_iff {fault : Fault} {message : String} :
    Says fault message ↔ message = fault.message := by
  constructor
  · intro said
    cases said with
    | unenclosedName => rfl
    | invalidPid given =>
      rw [Text.Numeral.Fault.says_iff.mp given]
      rfl
    | otherPid => rfl
    | tooFewFields => rfl
    | invalidField labelled quotes given =>
      rw [StatField.mem_labels_iff.mp labelled, Text.quotes_iff.mp quotes,
        Text.Numeral.Fault.says_iff.mp given]
      rfl
  · rintro rfl
    exact says_message fault

end StatLine

end Proc

end ProcessAccounting
