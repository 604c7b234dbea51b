import ProcessAccounting.Proc.Reader
import ProcessAccounting.Proofs.Proc.Messages
import ProcessAccounting.Proofs.Proc.StatLine

/-!
# The grammar of stat lines

Which lines describe a process, said without reading them, and why any other line is refused:
the checks stand in a fixed order, and the first one that a line does not pass decides the
fault.  Reading agrees with both: `read_iff_describes`.
-/

namespace ProcessAccounting.Proc

namespace StatField

/-- The number below which a field has to be: pids have 32 bits, counters and sizes 64. -/
def limit : StatField → Nat
  | parent | group | session => UInt32.size
  | userTicks | systemTicks | startTime | virtualMemory | residentPages => UInt64.size

/-- The order in which the fields are checked. -/
def order : List StatField :=
  [residentPages, parent, group, session, virtualMemory, userTicks, systemTicks, startTime]

end StatField

namespace StatLine

open Text

/-- The line consists of these parts: the name stands between the first opening and the last
closing parenthesis, and the fields are the words behind it. -/
def Encloses (line : List Char) (parts : Parts) : Prop :=
  ∃ after, line = parts.before ++ '(' :: (parts.name ++ ')' :: after) ∧
    '(' ∉ parts.before ∧ ')' ∉ after ∧ parts.fields = words after

/-- At a place among the fields, counted from 0, stands a numeral of a number below the limit. -/
def HasNumeral (fields : List (List Char)) (limit place : Nat) : Prop :=
  ∃ token n, fields[place]? = some token ∧ Numeral.Denotes token n ∧ n < limit

/-- The line describes a process with this pid. -/
def Describes (pid : Pid) (line : List Char) : Prop :=
  ∃ parts, Encloses line parts ∧ Numeral.Denotes (trim parts.before) pid.toNat ∧
    22 ≤ parts.fields.length ∧
    (∀ place ∈ [1, 2, 3], HasNumeral parts.fields UInt32.size place) ∧
    ∀ place ∈ [11, 12, 19, 20, 21], HasNumeral parts.fields UInt64.size place

/-- What is checked once the name has been found. -/
inductive Check where
  | pidNumeral
  | samePid
  | length
  | field (field : StatField)

/-- The order of the checks. -/
def Check.order : List Check := [pidNumeral, samePid, length] ++ StatField.order.map field

/-- A check that the parts of a line do not pass, and the fault that it finds. -/
inductive Violates (pid : Pid) (parts : Parts) : Check → Fault → Prop
  | pidNumeral {fault : Numeral.Fault}
      (refused : Numeral.Refused UInt32.size (trim parts.before) fault) :
      Violates pid parts .pidNumeral (.invalidPid fault)
  | samePid {found : Pid} (denotes : Numeral.Denotes (trim parts.before) found.toNat)
      (other : found ≠ pid) : Violates pid parts .samePid (.otherPid found)
  | length (short : parts.fields.length < 22) :
      Violates pid parts .length (.tooFewFields parts.fields.length)
  | field {field : StatField} {fault : Numeral.Fault}
      (refused : Numeral.Refused field.limit (parts.text field) fault) :
      Violates pid parts (.field field)
        (.invalidField field (.ofList (parts.text field)) fault)

/-- The fault of a line: that no name is enclosed, or else that of the first check that is
violated. -/
inductive Refused (pid : Pid) (line : List Char) : Fault → Prop
  | unenclosed (unenclosed : ∀ parts, ¬ Encloses line parts) : Refused pid line .unenclosedName
  | violated {parts : Parts} {done rest : List Check} {check : Check} {fault : Fault}
      (enclosed : Encloses line parts) (order : Check.order = done ++ check :: rest)
      (passed : ∀ earlier ∈ done, ∀ fault, ¬ Violates pid parts earlier fault)
      (violates : Violates pid parts check fault) : Refused pid line fault

theorem split_eq_ok_iff {line : List Char} {parts : Parts} :
    split line = .ok parts ↔ Encloses line parts := by
  constructor
  · intro ok
    unfold split at ok
    split at ok
    · cases ok
    · next before rest first =>
      split at ok
      · cases ok
      · next name after last =>
        cases ok
        obtain ⟨rfl, noOpening⟩ := cutFirst?_eq_some_iff.mp first
        obtain ⟨rfl, noClosing⟩ := cutLast?_eq_some_iff.mp last
        exact ⟨after, rfl, noOpening, noClosing, rfl⟩
  · rintro ⟨after, rfl, noOpening, noClosing, fields⟩
    rw [split_of_enclosed noOpening noClosing, ← fields]

theorem fault_of_split {line : List Char} {fault : Fault} (error : split line = .error fault) :
    fault = .unenclosedName := by
  unfold split at error
  split at error
  · cases error
    rfl
  · split at error
    · cases error
      rfl
    · cases error

theorem split_eq_error_iff {line : List Char} {fault : Fault} :
    split line = .error fault ↔
      fault = .unenclosedName ∧ ∀ parts, ¬ Encloses line parts := by
  constructor
  · intro error
    refine ⟨fault_of_split error, fun parts enclosed => ?_⟩
    rw [split_eq_ok_iff.mpr enclosed] at error
    cases error
  · rintro ⟨rfl, unenclosed⟩
    cases result : split line with
    | ok parts => exact absurd (split_eq_ok_iff.mp result) (unenclosed parts)
    | error fault => rw [fault_of_split result]

namespace Parts

variable {parts : Parts} {pid : Pid} {pageSize : Option UInt64}

/-- One check on its own. -/
def check (parts : Parts) (pid : Pid) : Check → Except Fault Unit
  | .pidNumeral =>
    verdict ((Numeral.readUInt32 (trim parts.before)).mapError .invalidPid)
  | .samePid =>
    match Numeral.readUInt32 (trim parts.before) with
    | .ok found => if found = pid then .ok () else .error (.otherPid found)
    | .error _ => .ok ()
  | .length => parts.checkLength
  | .field field =>
    verdict ((Numeral.read field.limit (parts.text field)).mapError
      (.invalidField field (.ofList (parts.text field))))

theorem check_samePid_eq_error_iff {fault : Fault} :
    parts.check pid .samePid = .error fault ↔
      ∃ found, Numeral.readUInt32 (trim parts.before) = .ok found ∧ found ≠ pid ∧
        fault = .otherPid found := by
  rw [check]
  cases Numeral.readUInt32 (trim parts.before) with
  | error fault => simp
  | ok found =>
    show (if found = pid then _ else _) = _ ↔ _
    split
    · next same => simp [same]
    · next other =>
      constructor
      · intro error
        cases error
        exact ⟨found, rfl, other, rfl⟩
      · rintro ⟨found', read, -, rfl⟩
        cases read
        rfl

theorem check_eq_error_iff {check : Check} {fault : Fault} :
    parts.check pid check = .error fault ↔ Violates pid parts check fault := by
  cases check with
  | pidNumeral =>
    rw [Parts.check, verdict_eq_error_iff, mapError_eq_error_iff]
    constructor
    · rintro ⟨fault, error, rfl⟩
      exact .pidNumeral (Numeral.readUInt32_eq_error_iff.mp error)
    · intro violates
      cases violates with
      | pidNumeral refused => exact ⟨_, Numeral.readUInt32_eq_error_iff.mpr refused, rfl⟩
  | samePid =>
    rw [check_samePid_eq_error_iff]
    constructor
    · rintro ⟨found, read, other, rfl⟩
      exact .samePid (Numeral.readUInt32_eq_ok_iff.mp read) other
    · intro violates
      cases violates with
      | samePid denotes other =>
        exact ⟨_, Numeral.readUInt32_eq_ok_iff.mpr denotes, other, rfl⟩
  | length =>
    rw [Parts.check, checkLength]
    constructor
    · intro error
      split at error
      · cases error
      · next short =>
        cases error
        exact .length (Nat.not_le.mp short)
    · intro violates
      cases violates with
      | length short => exact if_neg (Nat.not_le.mpr short)
  | field field =>
    have positive : 0 < field.limit := by cases field <;> decide
    rw [Parts.check, verdict_eq_error_iff, mapError_eq_error_iff]
    constructor
    · rintro ⟨fault, error, rfl⟩
      exact .field ((Numeral.read_eq_error_iff positive).mp error)
    · intro violates
      cases violates with
      | field refused => exact ⟨_, (Numeral.read_eq_error_iff positive).mpr refused, rfl⟩

theorem verdict_pidAt {field : StatField} (short : field.limit = UInt32.size) :
    verdict (parts.pidAt field) = parts.check pid (.field field) := by
  rw [check, short, pidAt, Numeral.readUInt32]
  cases Numeral.read UInt32.size (parts.text field) <;> rfl

theorem verdict_wordAt {field : StatField} (long : field.limit = UInt64.size) :
    verdict (parts.wordAt field) = parts.check pid (.field field) := by
  rw [check, long, wordAt, Numeral.readUInt64]
  cases Numeral.read UInt64.size (parts.text field) <;> rfl

theorem verdict_process :
    verdict (parts.process pid pageSize) =
      (StatField.order.map Check.field).forM (parts.check pid) := by
  refine verdict_bind (verdict_wordAt rfl) fun pages => ?_
  refine verdict_bind (verdict_pidAt rfl) fun parent => ?_
  refine verdict_bind (verdict_pidAt rfl) fun group => ?_
  refine verdict_bind (verdict_pidAt rfl) fun session => ?_
  refine verdict_bind (verdict_wordAt rfl) fun virtualMemory => ?_
  refine verdict_bind (verdict_wordAt rfl) fun userTicks => ?_
  refine verdict_bind (verdict_wordAt rfl) fun systemTicks => ?_
  refine verdict_bind (verdict_wordAt rfl) fun startTime => ?_
  rfl

theorem verdict_checkPid :
    verdict (parts.checkPid pid) =
      parts.check pid .pidNumeral >>= fun _ => parts.check pid .samePid := by
  rw [check, check, checkPid]
  cases Numeral.readUInt32 (trim parts.before) with
  | error fault => rfl
  | ok found =>
    show verdict (if found = pid then _ else _) = if found = pid then _ else _
    split <;> rfl

theorem check_pid_iff :
    parts.check pid .pidNumeral = .ok () ∧ parts.check pid .samePid = .ok () ↔
      Numeral.Denotes (trim parts.before) pid.toNat := by
  rw [← Numeral.readUInt32_eq_ok_iff, check, check]
  cases Numeral.readUInt32 (trim parts.before) with
  | error fault => exact iff_of_false (fun passed => nomatch passed.1) (fun ok => nomatch ok)
  | ok found =>
    show Except.ok () = .ok () ∧ (if found = pid then _ else _) = _ ↔ _
    by_cases same : found = pid
    · simp [same]
    · simp [same]

theorem check_length_iff : parts.check pid .length = .ok () ↔ 22 ≤ parts.fields.length := by
  rw [check, checkLength]
  by_cases long : requiredFields ≤ parts.fields.length
  · exact iff_of_true (if_pos long) long
  · rw [if_neg long]
    exact iff_of_false (fun ok => nomatch ok) long

theorem check_field_iff (long : 22 ≤ parts.fields.length) {field : StatField} :
    parts.check pid (.field field) = .ok () ↔
      HasNumeral parts.fields field.limit field.index := by
  have positive : 0 < field.limit := by cases field <;> decide
  have there : field.index < parts.fields.length := by
    refine Nat.lt_of_lt_of_le ?_ long
    cases field <;> decide
  have found : parts.fields[field.index]? = some (parts.text field) := by
    rw [text, List.getElem?_eq_getElem there, Option.getD_some]
  rw [check, verdict_eq_ok_iff]
  constructor
  · rintro ⟨n, ok⟩
    obtain ⟨denotes, fits⟩ := (Numeral.read_eq_ok_iff positive).mp (mapError_eq_ok_iff.mp ok)
    exact ⟨parts.text field, n, found, denotes, fits⟩
  · rintro ⟨token, n, listed, denotes, fits⟩
    rw [found, Option.some.injEq] at listed
    subst listed
    exact ⟨n, mapError_eq_ok_iff.mpr ((Numeral.read_eq_ok_iff positive).mpr ⟨denotes, fits⟩)⟩

/-- Parts that pass all checks are those of a line that describes the process. -/
theorem forall_check_iff :
    (∀ check ∈ Check.order, parts.check pid check = .ok ()) ↔
      Numeral.Denotes (trim parts.before) pid.toNat ∧ 22 ≤ parts.fields.length ∧
      (∀ place ∈ [1, 2, 3], HasNumeral parts.fields UInt32.size place) ∧
      ∀ place ∈ [11, 12, 19, 20, 21], HasNumeral parts.fields UInt64.size place := by
  have by_place : (∀ field ∈ StatField.order, HasNumeral parts.fields field.limit field.index) ↔
      (∀ place ∈ [1, 2, 3], HasNumeral parts.fields UInt32.size place) ∧
      ∀ place ∈ [11, 12, 19, 20, 21], HasNumeral parts.fields UInt64.size place := by
    simp only [StatField.order, List.forall_mem_cons, StatField.limit, StatField.index]
    grind
  rw [← by_place, ← check_pid_iff, ← @check_length_iff parts pid]
  simp only [Check.order, List.forall_mem_append, List.forall_mem_cons, List.forall_mem_map]
  constructor
  · rintro ⟨⟨numeral, same, length, -⟩, fields⟩
    have long := check_length_iff.mp length
    exact ⟨⟨numeral, same⟩, length,
      fun field member => (check_field_iff long).mp (fields field member)⟩
  · rintro ⟨⟨numeral, same⟩, length, fields⟩
    have long := check_length_iff.mp length
    exact ⟨⟨numeral, same, length, List.forall_mem_nil _⟩,
      fun field member => (check_field_iff long).mpr (fields field member)⟩

end Parts

variable {pid : Pid} {pageSize : Option UInt64} {line : List Char} {fault : Fault}

/-- Reading takes the line apart and then makes the checks in their order. -/
theorem verdict_read (pid : Pid) (pageSize : Option UInt64) (line : List Char) :
    verdict (read pid pageSize line) =
      split line >>= fun parts => Check.order.forM (parts.check pid) := by
  unfold read
  cases split line with
  | error fault => rfl
  | ok parts =>
    have length : verdict parts.checkLength = parts.check pid .length := by
      rw [Parts.check]
      cases parts.checkLength <;> rfl
    have steps : verdict (parts.checkPid pid >>= fun _ => parts.checkLength >>= fun _ =>
          parts.process pid pageSize) =
        (parts.check pid .pidNumeral >>= fun _ => parts.check pid .samePid) >>= fun _ =>
          parts.check pid .length >>= fun _ =>
            (StatField.order.map Check.field).forM (parts.check pid) :=
      verdict_bind Parts.verdict_checkPid fun _ => verdict_bind length fun _ => Parts.verdict_process
    rw [bind_assoc] at steps
    exact steps

/-- A line is refused for the first check that it does not pass. -/
theorem read_eq_error_iff : read pid pageSize line = .error fault ↔ Refused pid line fault := by
  rw [← verdict_eq_error_iff, verdict_read]
  constructor
  · intro error
    cases result : split line with
    | error fault' =>
      rw [result] at error
      cases error
      obtain ⟨rfl, unenclosed⟩ := split_eq_error_iff.mp result
      exact .unenclosed unenclosed
    | ok parts =>
      rw [result] at error
      obtain ⟨done, check, rest, order, passed, failed⟩ := forM_eq_error_iff.mp error
      refine .violated (split_eq_ok_iff.mp result) order ?_ (Parts.check_eq_error_iff.mp failed)
      intro earlier member fault' violates
      have error' := Parts.check_eq_error_iff.mpr violates
      rw [passed earlier member] at error'
      cases error'
  · rintro (unenclosed | ⟨enclosed, order, passed, violates⟩)
    · rw [split_eq_error_iff.mpr ⟨rfl, unenclosed⟩]
      rfl
    · rw [split_eq_ok_iff.mpr enclosed]
      refine forM_eq_error_iff.mpr ⟨_, _, _, order, ?_, Parts.check_eq_error_iff.mpr violates⟩
      intro earlier member
      cases result : Parts.check _ pid earlier with
      | ok _ => rfl
      | error fault' =>
        exact absurd (Parts.check_eq_error_iff.mp result) (passed earlier member fault')

/-- A line is read when it passes all checks, which is when it describes a process. -/
theorem exists_read_iff : (∃ p, read pid pageSize line = .ok p) ↔ Describes pid line := by
  rw [← verdict_eq_ok_iff, verdict_read]
  cases result : split line with
  | error fault =>
    have unenclosed := (split_eq_error_iff.mp result).2
    refine iff_of_false (fun ok => nomatch ok) ?_
    rintro ⟨parts, enclosed, -⟩
    exact unenclosed parts enclosed
  | ok parts =>
    show Check.order.forM (parts.check pid) = .ok () ↔ _
    rw [forM_eq_ok_iff, Parts.forall_check_iff]
    constructor
    · intro described
      exact ⟨parts, split_eq_ok_iff.mp result, described⟩
    · rintro ⟨parts', enclosed, described⟩
      rw [split_eq_ok_iff.mpr enclosed, Except.ok.injEq] at result
      rwa [← result]

/-- A line is read exactly when it describes a process with the pid, whatever the page size is.
Any other line is refused for the first check that it does not pass, and what a reader reports
of a file then names the pid and says what `Says` lays down for that fault. -/
theorem read_iff_describes (pid : Pid) (line : List Char) :
    (∀ pageSize, (∃ p, read pid pageSize line = .ok p) ↔ Describes pid line) ∧
    (∀ pageSize fault, read pid pageSize line = .error fault ↔ Refused pid line fault) ∧
    ∀ (r : Reader) (contents : List UInt8) (report : Report),
      r.interpret pid contents = .error report ↔
        ∃ fault message, Refused pid (Lossy.decode contents) fault ∧ Says fault message ∧
          report =
            { cause := .malformed pid message
              notes := ["stat file under " ++ r.entryPath pid] } := by
  refine ⟨fun _ => exists_read_iff, fun _ _ => read_eq_error_iff, fun r contents report => ?_⟩
  rw [Reader.interpret, mapError_eq_error_iff]
  constructor
  · rintro ⟨fault, error, rfl⟩
    exact ⟨fault, fault.message, read_eq_error_iff.mp error, says_message fault, rfl⟩
  · rintro ⟨fault, message, refused, said, rfl⟩
    rw [says_iff.mp said]
    exact ⟨fault, read_eq_error_iff.mpr refused, rfl⟩

-- The resident pages are checked before the parent.
example : read 7 none "7 (a) S x 7 7 0 0 0 0 0 0 0 10 0 0 0 20 0 1 0 10 1000 -2".toList =
    .error (.invalidField .residentPages "-2" .invalidDigit) :=
  rfl

end StatLine

end ProcessAccounting.Proc
