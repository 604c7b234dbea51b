import ProcessAccounting.Proofs.Proc.Access
import ProcessAccounting.Proofs.Proc.StatLine
import ProcessAccounting.Proofs.Text.Lossy

/-!
# Stat files

A stat file as the system writes it is read back field by field, whatever bytes stand in
the name of the command.
-/

namespace ProcessAccounting.Proc

open Text

/-- The stat file of a process: its pid, the name of its command in parentheses, and
fields with a space between two of them, up to a line feed. -/
def statFile (pid : Pid) (name : List UInt8) (fields : List (List UInt8)) : List UInt8 :=
  entryName pid ++ [0x20, 0x28] ++ name ++ [0x29, 0x20] ++ [0x20].intercalate fields ++ [0x0A]

/-- The field at a place, counted from 0, is a decimal numeral of the number. -/
def FieldDenotes (fields : List (List UInt8)) (place n : Nat) : Prop :=
  ∃ field, fields[place]? = some field ∧ Numeral.Denotes (Lossy.decode field) n

/-- The fields are not empty, hold neither blanks nor closing parentheses, and give the
values at their places. -/
structure StatFields (fields : List (List UInt8)) (values : StatValues) : Prop where
  length : 22 ≤ fields.length
  filled : ∀ field ∈ fields, field ≠ []
  solid : ∀ field ∈ fields, ∀ c ∈ Lossy.decode field, isBlank c = false ∧ c ≠ ')'
  parent : FieldDenotes fields 1 values.parent.toNat
  group : FieldDenotes fields 2 values.group.toNat
  session : FieldDenotes fields 3 values.session.toNat
  userTicks : FieldDenotes fields 11 values.userTicks.toNat
  systemTicks : FieldDenotes fields 12 values.systemTicks.toNat
  startTime : FieldDenotes fields 19 values.startTime.toNat
  virtualMemory : FieldDenotes fields 20 values.virtualMemory.toNat
  residentPages : FieldDenotes fields 21 values.residentPages.toNat

theorem toUInt8_of_isDigit {c : Char} (digit : c.isDigit = true) :
    c.toNat.toUInt8 < 0x80 ∧ Char.ofNat c.toNat.toUInt8.toNat = c := by
  simp only [Char.isDigit, Bool.and_eq_true, decide_eq_true_eq, ge_iff_le,
    UInt32.le_iff_toNat_le] at digit
  change 48 ≤ c.toNat ∧ c.toNat ≤ 57 at digit
  have same : c.toNat.toUInt8.toNat = c.toNat := by
    rw [Nat.toUInt8, UInt8.toNat_ofNat']
    omega
  constructor
  · rw [UInt8.lt_iff_toNat_lt, same]
    show c.toNat < 128
    omega
  · rw [same, Char.ofNat_toNat]

/-- A number in decimal. -/
def decimal (n : Nat) : List UInt8 := (Nat.toDigits 10 n).map fun c => c.toNat.toUInt8

theorem decimal_ne_nil (n : Nat) : decimal n ≠ [] := by
  rw [decimal, Ne, List.map_eq_nil_iff]
  exact Nat.toDigits_ne_nil

theorem decode_decimal (n : Nat) : Lossy.decode (decimal n) = Nat.toDigits 10 n := by
  have ascii : ∀ b ∈ decimal n, b < 0x80 := by
    intro b member
    obtain ⟨c, digit, rfl⟩ := List.mem_map.mp member
    exact (toUInt8_of_isDigit (isDigit_of_mem_toDigits digit)).1
  rw [Lossy.decode_of_ascii ascii, decimal, List.map_map]
  have same : ∀ c ∈ Nat.toDigits 10 n,
      ((fun b : UInt8 => Char.ofNat b.toNat) ∘ fun c : Char => c.toNat.toUInt8) c = c :=
    fun c digit => (toUInt8_of_isDigit (isDigit_of_mem_toDigits digit)).2
  exact (List.map_congr_left same).trans (List.map_id' _)

theorem decode_entryName (pid : Pid) :
    Lossy.decode (entryName pid) = Nat.toDigits 10 pid.toNat :=
  decode_decimal pid.toNat

theorem readUInt32_decode_entryName (pid : Pid) :
    Numeral.readUInt32 (Lossy.decode (entryName pid)) = .ok pid := by
  rw [decode_entryName, Numeral.readUInt32_eq_ok_iff]
  exact Numeral.denotes_toDigits pid.toNat

theorem cons_intercalate {α : Type} (separator : α) {pieces : List (List α)}
    (filled : pieces ≠ []) :
    separator :: [separator].intercalate pieces = pieces.flatMap (separator :: ·) := by
  induction pieces with
  | nil => exact absurd rfl filled
  | cons piece pieces ih =>
    cases pieces with
    | nil => simp
    | cons next pieces =>
      rw [List.intercalate_cons_cons, List.flatMap_cons, ← ih (List.cons_ne_nil next pieces)]
      simp

/-- Fields with a space before each of them are decoded one by one. -/
theorem decode_flatMap (fields : List (List UInt8)) :
    Lossy.decode (fields.flatMap (0x20 :: ·) ++ [0x0A]) =
      (fields.map Lossy.decode).flatMap (' ' :: ·) ++ ['\n'] := by
  induction fields with
  | nil => decide
  | cons field fields ih =>
    have ascii : ∀ b ∈ (fields.flatMap (0x20 :: ·) ++ [0x0A]).head?, b < (0x80 : UInt8) := by
      intro b first
      cases fields with
      | nil =>
        cases first
        decide
      | cons next fields =>
        cases first
        decide
    rw [List.flatMap_cons, List.append_assoc, List.cons_append,
      Lossy.decode_cons_ascii _ (by decide), Lossy.decode_append field ascii, ih, List.map_cons,
      List.flatMap_cons, List.append_assoc]
    rfl

/-- The text of a stat file is a stat line up to a line feed, whatever bytes are in the name. -/
theorem decode_statFile (pid : Pid) (name : List UInt8) {fields : List (List UInt8)}
    (filled : fields ≠ []) :
    Lossy.decode (statFile pid name fields) =
      statLine pid (Lossy.decode name) (fields.map Lossy.decode) ++ ['\n'] := by
  have bytes : statFile pid name fields = entryName pid ++ 0x20 :: 0x28 ::
      (name ++ 0x29 :: (fields.flatMap (0x20 :: ·) ++ [0x0A])) := by
    rw [← cons_intercalate 0x20 filled]
    simp [statFile]
  rw [bytes, Lossy.decode_append_ascii _ _ (by decide), Lossy.decode_cons_ascii _ (by decide),
    Lossy.decode_append_ascii _ _ (by decide), decode_flatMap, decode_entryName, statLine]
  simp

theorem text_of_getElem? {parts : StatLine.Parts} {fields : List (List UInt8)}
    (decoded : parts.fields = fields.map Lossy.decode) {field : StatField} {token : List UInt8}
    (found : fields[field.index]? = some token) : parts.text field = Lossy.decode token := by
  rw [StatLine.Parts.text, decoded, List.getElem?_map, found]
  rfl

theorem pidAt_of_denotes {parts : StatLine.Parts} {fields : List (List UInt8)}
    (decoded : parts.fields = fields.map Lossy.decode) {field : StatField} {n : Pid}
    (denotes : FieldDenotes fields field.index n.toNat) : parts.pidAt field = .ok n := by
  obtain ⟨token, found, numeral⟩ := denotes
  rw [StatLine.Parts.pidAt, text_of_getElem? decoded found,
    Numeral.readUInt32_eq_ok_iff.mpr numeral]
  rfl

theorem wordAt_of_denotes {parts : StatLine.Parts} {fields : List (List UInt8)}
    (decoded : parts.fields = fields.map Lossy.decode) {field : StatField} {n : UInt64}
    (denotes : FieldDenotes fields field.index n.toNat) : parts.wordAt field = .ok n := by
  obtain ⟨token, found, numeral⟩ := denotes
  rw [StatLine.Parts.wordAt, text_of_getElem? decoded found,
    Numeral.readUInt64_eq_ok_iff.mpr numeral]
  rfl

/-- The fields of a sleeping process with the values, 0 where accounting needs none. -/
def StatValues.fields (values : StatValues) : List (List UInt8) :=
  [0x53] :: ([values.parent.toNat, values.group.toNat, values.session.toNat] ++
    List.replicate 7 0 ++ [values.userTicks.toNat, values.systemTicks.toNat] ++
    List.replicate 6 0 ++ [values.startTime.toNat, values.virtualMemory.toNat,
      values.residentPages.toNat]).map decimal

theorem fieldDenotes_decimal {fields : List (List UInt8)} {place n : Nat}
    (found : fields[place]? = some (decimal n)) : FieldDenotes fields place n := by
  refine ⟨decimal n, found, ?_⟩
  rw [decode_decimal]
  exact Numeral.denotes_toDigits n

theorem statFields_fields (values : StatValues) : StatFields values.fields values where
  length := Nat.le_refl 22
  filled := by
    intro field member
    rcases List.mem_cons.mp member with rfl | member
    · exact List.cons_ne_nil _ _
    · obtain ⟨n, -, rfl⟩ := List.mem_map.mp member
      exact decimal_ne_nil n
  solid := by
    intro field member c inField
    rcases List.mem_cons.mp member with rfl | member
    · rw [List.mem_singleton.mp inField]
      decide
    · obtain ⟨n, -, rfl⟩ := List.mem_map.mp member
      rw [decode_decimal] at inField
      have digit := isDigit_of_mem_toDigits inField
      refine ⟨isBlank_of_isDigit digit, ?_⟩
      rintro rfl
      cases digit
  parent := fieldDenotes_decimal rfl
  group := fieldDenotes_decimal rfl
  session := fieldDenotes_decimal rfl
  userTicks := fieldDenotes_decimal rfl
  systemTicks := fieldDenotes_decimal rfl
  startTime := fieldDenotes_decimal rfl
  virtualMemory := fieldDenotes_decimal rfl
  residentPages := fieldDenotes_decimal rfl

/-- The fields are taken from their places. -/
theorem carries_of_fields {parts : StatLine.Parts} {fields : List (List UInt8)}
    {values : StatValues} (decoded : parts.fields = fields.map Lossy.decode)
    (carried : StatFields fields values) : parts.Carries values where
  parent := pidAt_of_denotes decoded carried.parent
  group := pidAt_of_denotes decoded carried.group
  session := pidAt_of_denotes decoded carried.session
  userTicks := wordAt_of_denotes decoded carried.userTicks
  systemTicks := wordAt_of_denotes decoded carried.systemTicks
  startTime := wordAt_of_denotes decoded carried.startTime
  virtualMemory := wordAt_of_denotes decoded carried.virtualMemory
  residentPages := wordAt_of_denotes decoded carried.residentPages

theorem StatFields.isToken {fields : List (List UInt8)} {values : StatValues}
    (carried : StatFields fields values) : ∀ token ∈ fields.map Lossy.decode, IsToken token := by
  intro token member
  obtain ⟨field, listed, rfl⟩ := List.mem_map.mp member
  have solid := carried.solid field listed
  exact ⟨Lossy.decode_ne_nil (carried.filled field listed), fun c inField => (solid c inField).1,
    fun inField => (solid ')' inField).2 rfl⟩

/-- A stat file describes the process whose values it carries. -/
theorem read_decode_statFile {fields : List (List UInt8)} {values : StatValues}
    (carried : StatFields fields values) (pid : Pid) (name : List UInt8)
    (pageSize : Option UInt64) :
    StatLine.read pid pageSize (Lossy.decode (statFile pid name fields)) =
      .ok (values.record pid name pageSize) := by
  have long : StatLine.requiredFields ≤ (fields.map Lossy.decode).length := by
    rw [List.length_map]
    exact carried.length
  have filled : fields ≠ [] := by
    rintro rfl
    exact absurd carried.length (by decide)
  rw [decode_statFile pid name filled,
    StatLine.read_statLine pid _ pageSize carried.isToken (List.forall_mem_singleton.mpr rfl),
    if_pos long]
  exact (carries_of_fields rfl carried).process pid pageSize

/-- The command line as an answer to opening its file gives it. -/
def commandLineOf : Except AccessFault (List UInt8) → String
  | .ok raw => CommandLine.text raw
  | .error _ => ""

namespace Reader

variable {r : Reader} {d : Directory} {pid : Pid} {name : List UInt8}
  {fields : List (List UInt8)} {values : StatValues}

theorem interpret_statFile (carried : StatFields fields values) (pid : Pid) (name : List UInt8) :
    r.interpret pid (statFile pid name fields) = .ok (values.record pid name r.pageSize) := by
  rw [interpret, read_decode_statFile carried]
  rfl

/-- Reading a process opens its two files one after the other. -/
theorem readOnce_of_statFile (carried : StatFields fields values)
    (held : (r.access d pid .stat).1 = .ok (statFile pid name fields)) :
    r.readOnce pid d =
      (.ok { values.record pid name r.pageSize with
          commandLine := commandLineOf (r.access d pid .commandLine).1 },
        (r.access (r.access d pid .stat).2 pid .commandLine).2) := by
  have same : (r.access (r.access d pid .stat).2 pid .commandLine).1 =
      (r.access d pid .commandLine).1 :=
    access_access_of_ne (by simp)
  rw [← same]
  cases opened : r.access d pid .stat with
  | mk answer e =>
    rw [opened] at held
    simp only at held
    rw [readOnce, opened, held]
    simp only [interpret_statFile carried]
    cases again : r.access e pid .commandLine with
    | mk answer' f =>
      cases answer' with
      | ok raw => rfl
      | error fault => rfl

/-- Whatever bytes the name of its command holds, a process is read back from the stat file
that describes it: its fields from their places, the name decoded, and its command line
from the other file. -/
theorem readOnce_eq_of_statFile (r : Reader) (d : Directory) (pid : Pid) (name : List UInt8)
    (fields : List (List UInt8)) (values : StatValues) (carried : StatFields fields values)
    (held : (r.access d pid .stat).1 = .ok (statFile pid name fields)) :
    (r.readOnce pid d).1 = .ok {
      pid := pid
      parent := values.parent
      group := values.group
      session := values.session
      name := .ofList (Lossy.decode name)
      commandLine := match (r.access d pid .commandLine).1 with
        | .ok raw => CommandLine.text raw
        | .error _ => ""
      virtualMemory := values.virtualMemory
      residentMemory := match r.pageSize with
        | some size => .ofNat (min (UInt64.size - 1) (values.residentPages.toNat * size.toNat))
        | none => 0
      userTicks := values.userTicks
      systemTicks := values.systemTicks
      startTime := some values.startTime
      age := 0 } := by
  rw [readOnce_of_statFile carried held]
  cases (r.access d pid .commandLine).1 with
  | ok raw => rfl
  | error fault => rfl

-- The name holds delimiters and ends inside a character of three bytes.
theorem readOnce_of_broken_name :
    let name : List UInt8 := [0x61, 0x29, 0x20, 0x28, 0x0A, 0x00, 0xE2, 0x82, 0x29]
    let values : StatValues := {
      parent := 1, group := 2, session := 3, userTicks := 11, systemTicks := 12
      startTime := 19, virtualMemory := 20, residentPages := 21 }
    let r : Reader := { path := "/proc", pageSize := some 4096, tickRate := none, retries := 0 }
    let d : Directory := { entries := [{
      name := entryName 8
      stat := [.ok (statFile 8 name values.fields)]
      commandLine := [.ok [0x61, 0x00, 0x62, 0x00]] }] }
    ∃ p, (r.readOnce 8 d).1 = .ok p ∧ p.name = "a) (\n\x00\uFFFD)" ∧ p.commandLine = "a b" ∧
      p.parent = 1 ∧ p.residentMemory = 86016 := by
  intro name values r d
  have held : (r.access d 8 .stat).1 = .ok (statFile 8 name values.fields) := by decide +kernel
  refine ⟨_, readOnce_eq_of_statFile r d 8 name values.fields values (statFields_fields values)
    held, ?_, ?_, ?_, ?_⟩
  all_goals decide +kernel

end Reader

end ProcessAccounting.Proc
