import ProcessAccounting.Proc.StatLine
import ProcessAccounting.Proofs.Text.Numeral
import ProcessAccounting.Proofs.Text.Trimming
import ProcessAccounting.Proofs.Text.Words
import ProcessAccounting.Text.Lossy

/-!
# Stat lines

What the fields of a stat line say about a process, and how a line that is put together from
a pid, a name and tokens comes apart again.
-/

namespace ProcessAccounting.Proc

open Text

/-- What the fields of a stat file say about a process. -/
structure StatValues where
  parent : Pid
  group : Pid
  session : Pid
  userTicks : UInt64
  systemTicks : UInt64
  startTime : UInt64
  virtualMemory : UInt64
  residentPages : UInt64

/-- The record that a stat file describes, before its command line is read. -/
def StatValues.record (values : StatValues) (pid : Pid) (name : List UInt8)
    (pageSize : Option UInt64) : ProcessRecord where
  pid := pid
  parent := values.parent
  group := values.group
  session := values.session
  name := .ofList (Lossy.decode name)
  virtualMemory := values.virtualMemory
  residentMemory := match pageSize with
    | some size => .ofNat (min (UInt64.size - 1) (values.residentPages.toNat * size.toNat))
    | none => 0
  userTicks := values.userTicks
  systemTicks := values.systemTicks
  startTime := some values.startTime

theorem mul_eq_ofNat (a b : UInt64) :
    Saturating.mul a b = .ofNat (min (UInt64.size - 1) (a.toNat * b.toNat)) := by
  apply UInt64.toNat_inj.mp
  rw [Saturating.toNat_mul, UInt64.toNat_ofNat', Saturating.greatest, UInt64.size]
  omega

namespace StatLine

namespace Parts

variable {parts parts' : Parts} {values : StatValues} {pid : Pid} {pageSize : Option UInt64}
  {p : ProcessRecord}

/-- The fields that accounting needs are numerals of the values. -/
structure Carries (parts : Parts) (values : StatValues) : Prop where
  parent : parts.pidAt .parent = .ok values.parent
  group : parts.pidAt .group = .ok values.group
  session : parts.pidAt .session = .ok values.session
  userTicks : parts.wordAt .userTicks = .ok values.userTicks
  systemTicks : parts.wordAt .systemTicks = .ok values.systemTicks
  startTime : parts.wordAt .startTime = .ok values.startTime
  virtualMemory : parts.wordAt .virtualMemory = .ok values.virtualMemory
  residentPages : parts.wordAt .residentPages = .ok values.residentPages

/-- The process with the values that a line carries. -/
theorem Carries.process (carries : parts.Carries values) (pid : Pid)
    (pageSize : Option UInt64) :
    parts.process pid pageSize =
      .ok { values.record pid [] pageSize with name := .ofList parts.name } := by
  simp only [Parts.process, carries.parent, carries.group, carries.session,
    carries.userTicks, carries.systemTicks, carries.startTime, carries.virtualMemory,
    carries.residentPages, bind, Except.bind, pure, Except.pure]
  cases pageSize with
  | none => rfl
  | some size => simp only [StatValues.record, Option.map_some, Option.getD_some, mul_eq_ofNat]

/-- A line of which a process can be made carries its values. -/
theorem exists_carries (ok : parts.process pid pageSize = .ok p) :
    ∃ values, parts.Carries values ∧
      p = { values.record pid [] pageSize with name := .ofList parts.name } := by
  have made := ok
  obtain ⟨residentPages, pages, ok⟩ := exists_of_bind_eq_ok ok
  obtain ⟨parent, parents, ok⟩ := exists_of_bind_eq_ok ok
  obtain ⟨group, groups, ok⟩ := exists_of_bind_eq_ok ok
  obtain ⟨session, sessions, ok⟩ := exists_of_bind_eq_ok ok
  obtain ⟨virtualMemory, sizes, ok⟩ := exists_of_bind_eq_ok ok
  obtain ⟨userTicks, user, ok⟩ := exists_of_bind_eq_ok ok
  obtain ⟨systemTicks, system, ok⟩ := exists_of_bind_eq_ok ok
  obtain ⟨startTime, start, -⟩ := exists_of_bind_eq_ok ok
  let values : StatValues :=
    ⟨parent, group, session, userTicks, systemTicks, startTime, virtualMemory, residentPages⟩
  have carries : parts.Carries values :=
    ⟨parents, groups, sessions, user, system, start, sizes, pages⟩
  rw [carries.process pid pageSize, Except.ok.injEq] at made
  exact ⟨values, carries, made.symm⟩

end Parts

section Read

variable {pid : Pid} {pageSize : Option UInt64} {line : List Char} {p : ProcessRecord}

/-- A process that is read is made of the values that the line carries and a name. -/
theorem exists_record_of_read (ok : read pid pageSize line = .ok p) :
    ∃ (values : StatValues) (name : String),
      p = { values.record pid [] pageSize with name := name } := by
  obtain ⟨parts, -, ok⟩ := exists_of_bind_eq_ok ok
  obtain ⟨-, -, ok⟩ := exists_of_bind_eq_ok ok
  obtain ⟨-, -, made⟩ := exists_of_bind_eq_ok ok
  obtain ⟨values, -, same⟩ := Parts.exists_carries made
  exact ⟨values, .ofList parts.name, same⟩

/-- A process that is read has the pid that it is read under. -/
theorem pid_of_read (ok : read pid pageSize line = .ok p) : p.pid = pid := by
  obtain ⟨values, name, rfl⟩ := exists_record_of_read ok
  rfl

/-- A process is read without an age, and with the time at which it started. -/
theorem age_of_read (ok : read pid pageSize line = .ok p) :
    p.age = 0 ∧ p.startTime.isSome = true := by
  obtain ⟨values, name, rfl⟩ := exists_record_of_read ok
  exact ⟨rfl, rfl⟩

theorem commandLine_of_read (ok : read pid pageSize line = .ok p) : p.commandLine = "" := by
  obtain ⟨values, name, rfl⟩ := exists_record_of_read ok
  rfl

/-- Without a page size, no resident memory is counted. -/
theorem residentMemory_of_read (ok : read pid none line = .ok p) : p.residentMemory = 0 := by
  obtain ⟨values, name, rfl⟩ := exists_record_of_read ok
  rfl

end Read

end StatLine

theorem isDigit_of_mem_toDigits {n : Nat} {c : Char} (member : c ∈ Nat.toDigits 10 n) :
    c.isDigit = true :=
  Nat.isDigit_of_mem_toDigits (by decide) (by decide) member

/-- The stat line of a process: its pid, the name of its command in parentheses, and tokens
with a space before each of them. -/
def statLine (pid : Pid) (name : List Char) (tokens : List (List Char)) : List Char :=
  Nat.toDigits 10 pid.toNat ++ [' ', '('] ++ name ++ ')' :: tokens.flatMap (' ' :: ·)

/-- A text that can be a field of a stat line: it is not empty and holds neither blanks nor
closing parentheses. -/
structure IsToken (token : List Char) : Prop where
  filled : token ≠ []
  solid : ∀ c ∈ token, isBlank c = false
  closing : ')' ∉ token

namespace StatLine

variable {pid : Pid} {name : List Char} {tokens : List (List Char)} {ending : List Char}

/-- The name reaches from the first opening to the last closing parenthesis. -/
theorem split_of_enclosed {before name after : List Char} (noOpening : '(' ∉ before)
    (noClosing : ')' ∉ after) :
    split (before ++ '(' :: (name ++ ')' :: after)) =
      .ok { before, name, fields := words after } := by
  rw [split, cutFirst?_eq_some_iff.mpr ⟨rfl, noOpening⟩]
  simp only
  rw [cutLast?_eq_some_iff.mpr ⟨rfl, noClosing⟩]

/-- The parts of a line that is put together. -/
def Parts.ofTokens (pid : Pid) (name : List Char) (tokens : List (List Char)) : Parts where
  before := Nat.toDigits 10 pid.toNat ++ [' ']
  name := name
  fields := tokens

theorem Parts.checkPid_ofTokens (pid : Pid) (name : List Char) (tokens : List (List Char)) :
    (ofTokens pid name tokens).checkPid pid = .ok () := by
  have solid : ∀ c ∈ Nat.toDigits 10 pid.toNat, isBlank c = false :=
    fun c digit => isBlank_of_isDigit (isDigit_of_mem_toDigits digit)
  have found : Numeral.readUInt32 (trim (ofTokens pid name tokens).before) = .ok pid := by
    rw [ofTokens, trim_concat_blank solid (by decide), Numeral.readUInt32_eq_ok_iff]
    exact Numeral.denotes_toDigits pid.toNat
  rw [Parts.checkPid, found]
  exact if_pos rfl

/-- A line that is put together comes apart into what it was made of. -/
theorem split_statLine (pid : Pid) (name : List Char) (fits : ∀ token ∈ tokens, IsToken token)
    (blank : ∀ c ∈ ending, isBlank c = true) :
    split (statLine pid name tokens ++ ending) = .ok (Parts.ofTokens pid name tokens) := by
  have parts : statLine pid name tokens ++ ending = (Nat.toDigits 10 pid.toNat ++ [' ']) ++
      '(' :: (name ++ ')' :: (tokens.flatMap (' ' :: ·) ++ ending)) := by
    simp [statLine]
  have noOpening : '(' ∉ Nat.toDigits 10 pid.toNat ++ [' '] := by
    intro member
    rcases List.mem_append.mp member with digit | space
    · exact absurd (isDigit_of_mem_toDigits digit) (by decide)
    · exact absurd (List.mem_singleton.mp space) (by decide)
  have noClosing : ')' ∉ tokens.flatMap (' ' :: ·) ++ ending := by
    intro member
    rcases List.mem_append.mp member with inTokens | inEnding
    · obtain ⟨token, listed, inToken⟩ := List.mem_flatMap.mp inTokens
      rcases List.mem_cons.mp inToken with space | inToken
      · exact absurd space (by decide)
      · exact (fits token listed).closing inToken
    · exact absurd (blank ')' inEnding) (by decide)
  rw [parts, split_of_enclosed noOpening noClosing,
    words_flatMap (fun t listed => (fits t listed).filled)
      (fun t listed => (fits t listed).solid) blank, Parts.ofTokens]

/-- A line that is put together is read as far as it has enough tokens. -/
theorem read_statLine (pid : Pid) (name : List Char) (pageSize : Option UInt64)
    (fits : ∀ token ∈ tokens, IsToken token) (blank : ∀ c ∈ ending, isBlank c = true) :
    read pid pageSize (statLine pid name tokens ++ ending) =
      if requiredFields ≤ tokens.length then (Parts.ofTokens pid name tokens).process pid pageSize
      else .error (.tooFewFields tokens.length) := by
  rw [read, split_statLine pid name fits blank]
  simp only [bind, Except.bind]
  rw [Parts.checkPid_ofTokens]
  by_cases enough : requiredFields ≤ tokens.length
  · have long : (Parts.ofTokens pid name tokens).checkLength = .ok () := if_pos enough
    simp only [long, if_pos enough]
  · have short : (Parts.ofTokens pid name tokens).checkLength =
        .error (.tooFewFields tokens.length) := if_neg enough
    simp only [short, if_neg enough]

end StatLine

end ProcessAccounting.Proc
