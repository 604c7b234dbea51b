import ProcessAccounting.Proofs.Proc.StatLine

/-!
# Truncated stat lines

A stat line that has been cut off is refused, or is read as the whole line would be, with one
exception.  The number of resident pages is the last field that is needed, and a cut inside
it leaves a shorter number that nothing tells from a whole one.
-/

namespace ProcessAccounting.Proc.StatLine

open Text

variable {pid : Pid} {pageSize : Option UInt64} {name : List Char}
  {tokens fields : List (List Char)} {ending ending' cut : List Char} {p : ProcessRecord}

/-- What can be left of a stat line. -/
inductive Cut (pid : Pid) (name : List Char) (tokens : List (List Char)) : List Char → Prop
  /-- The end of the name is missing. -/
  | unclosed {cut : List Char} (noClosing : ')' ∉ cut) : Cut pid name tokens cut
  /-- Some of the tokens are left, and all of them are whole. -/
  | between {kept : List (List Char)} {ending : List Char} (left : kept <+: tokens)
    (blank : ∀ c ∈ ending, isBlank c = true) :
    Cut pid name tokens (statLine pid name kept ++ ending)
  /-- Of the last token that is left only the start is there. -/
  | inside {kept rest : List (List Char)} {start lost : List Char}
    (parts : tokens = kept ++ (start ++ lost) :: rest) (filled : start ≠ []) :
    Cut pid name tokens (statLine pid name (kept ++ [start]))

/-- A cut of a text made of two ends in the first or in the second. -/
theorem within_or_beyond {front back : List Char} (shorter : cut <+: front ++ back) :
    cut <+: front ∨ ∃ after, after <+: back ∧ cut = front ++ after := by
  rcases List.prefix_or_prefix_of_prefix shorter (List.prefix_append front back) with
    within | ⟨after, rfl⟩
  · exact .inl within
  · exact .inr ⟨after, (List.prefix_append_right_inj front).mp shorter, rfl⟩

theorem flatMap_cut_cases (blank : ∀ c ∈ ending, isBlank c = true)
    (shorter : cut <+: tokens.flatMap (' ' :: ·) ++ ending) :
    (∃ kept blanks, kept <+: tokens ∧ (∀ c ∈ blanks, isBlank c = true) ∧
      cut = kept.flatMap (' ' :: ·) ++ blanks) ∨
    ∃ kept start lost rest, tokens = kept ++ (start ++ lost) :: rest ∧ start ≠ [] ∧
      cut = (kept ++ [start]).flatMap (' ' :: ·) := by
  induction tokens generalizing cut with
  | nil =>
    refine .inl ⟨[], cut, List.prefix_rfl, ?_, rfl⟩
    exact fun c member => blank c (shorter.subset member)
  | cons token tokens ih =>
    rw [List.flatMap_cons, List.append_assoc] at shorter
    rcases within_or_beyond shorter with within | ⟨after, beyond, rfl⟩
    · cases cut with
      | nil => exact .inl ⟨[], [], List.nil_prefix, List.forall_mem_nil _, rfl⟩
      | cons c start =>
        obtain ⟨rfl, lost, rfl⟩ := List.cons_prefix_cons.mp within
        by_cases filled : start = []
        · subst filled
          exact .inl ⟨[], [' '], List.nil_prefix, List.forall_mem_singleton.mpr rfl, rfl⟩
        · exact .inr ⟨[], start, lost, tokens, rfl, filled, by simp⟩
    · rcases ih beyond with
        ⟨kept, blanks, left, blank', rfl⟩ | ⟨kept, start, lost, rest, rfl, filled, rfl⟩
      · exact .inl ⟨token :: kept, blanks, List.cons_prefix_cons.mpr ⟨rfl, left⟩, blank',
          by simp⟩
      · exact .inr ⟨token :: kept, start, lost, rest, rfl, filled, by simp⟩

/-- Every cut of a stat line is one of these. -/
theorem cut_of_shorter (closing : ')' ∉ name) (blank : ∀ c ∈ ending, isBlank c = true)
    (shorter : cut <+: statLine pid name tokens ++ ending) : Cut pid name tokens cut := by
  have noClosing : ')' ∉ Nat.toDigits 10 pid.toNat ++ [' ', '('] ++ name := by
    intro member
    rcases List.mem_append.mp member with before | inName
    · rcases List.mem_append.mp before with digit | space
      · exact absurd (isDigit_of_mem_toDigits digit) (by decide)
      · exact absurd space (by decide)
    · exact closing inName
  rw [statLine, List.append_assoc, List.cons_append] at shorter
  rcases within_or_beyond shorter with within | ⟨after, beyond, rfl⟩
  · exact .unclosed fun member => noClosing (within.subset member)
  · cases after with
    | nil =>
      rw [List.append_nil]
      exact .unclosed noClosing
    | cons c after =>
      obtain ⟨rfl, within⟩ := List.cons_prefix_cons.mp beyond
      rcases flatMap_cut_cases blank within with
        ⟨kept, blanks, left, blank', rfl⟩ | ⟨kept, start, lost, rest, parts, filled, rfl⟩
      · have line : Nat.toDigits 10 pid.toNat ++ [' ', '('] ++ name ++
            ')' :: (kept.flatMap (' ' :: ·) ++ blanks) = statLine pid name kept ++ blanks := by
          rw [statLine, List.append_assoc _ _ blanks, List.cons_append]
        rw [line]
        exact .between left blank'
      · exact .inside parts filled

theorem read_of_unclosed (noClosing : ')' ∉ cut) :
    read pid pageSize cut = .error .unenclosedName := by
  have refused : split cut = .error .unenclosedName := by
    rw [split]
    cases opening : cutFirst? '(' cut with
    | none => rfl
    | some parts =>
      obtain ⟨before, after⟩ := parts
      obtain ⟨rfl, -⟩ := cutFirst?_eq_some_iff.mp opening
      have unclosed : ')' ∉ after := fun member =>
        noClosing (List.mem_append_right before (List.mem_cons_of_mem _ member))
      simp only [cutLast?_eq_none_iff.mpr unclosed]
  rw [read, refused]
  rfl

namespace Parts

variable {parts parts' : Parts} {values : StatValues} {field : StatField} {n : Nat}

/-- The text of a field depends only on the fields up to it. -/
theorem text_of_common (common : parts'.fields.take n = parts.fields.take n)
    (before : field.index < n) : parts'.text field = parts.text field := by
  rw [text, text, ← List.getElem?_take_of_lt before, common, List.getElem?_take_of_lt before]

theorem pidAt_of_common (common : parts'.fields.take n = parts.fields.take n)
    (before : field.index < n) : parts'.pidAt field = parts.pidAt field := by
  rw [pidAt, pidAt, text_of_common common before]

theorem wordAt_of_common (common : parts'.fields.take n = parts.fields.take n)
    (before : field.index < n) : parts'.wordAt field = parts.wordAt field := by
  rw [wordAt, wordAt, text_of_common common before]

theorem wordAt_concat (pid : Pid) (name : List Char) {kept : List (List Char)}
    (last : List Char) (there : kept.length = field.index) :
    (ofTokens pid name (kept ++ [last])).wordAt field =
      (Numeral.readUInt64 last).mapError (.invalidField field (.ofList last)) := by
  have text : (ofTokens pid name (kept ++ [last])).text field = last := by
    rw [Parts.text, ofTokens, ← there, List.getElem?_concat_length]
    rfl
  rw [wordAt, text]

/-- Fields that agree in front of the resident pages carry the same values, but for these. -/
theorem Carries.of_common (carries : parts.Carries values)
    (common : parts'.fields.take StatField.residentPages.index =
      parts.fields.take StatField.residentPages.index)
    {left : UInt64} (pages : parts'.wordAt .residentPages = .ok left) :
    parts'.Carries { values with residentPages := left } where
  parent := (pidAt_of_common common (by decide)).trans carries.parent
  group := (pidAt_of_common common (by decide)).trans carries.group
  session := (pidAt_of_common common (by decide)).trans carries.session
  userTicks := (wordAt_of_common common (by decide)).trans carries.userTicks
  systemTicks := (wordAt_of_common common (by decide)).trans carries.systemTicks
  startTime := (wordAt_of_common common (by decide)).trans carries.startTime
  virtualMemory := (wordAt_of_common common (by decide)).trans carries.virtualMemory
  residentPages := pages

end Parts

theorem isToken_of_digits {token : List Char} (filled : token ≠ [])
    (symbols : ∀ c ∈ token, c = '+' ∨ c.isDigit = true) : IsToken token := by
  refine ⟨filled, ?_, ?_⟩
  · intro c member
    rcases symbols c member with rfl | digit
    · decide
    · exact isBlank_of_isDigit digit
  · intro member
    rcases symbols ')' member with plus | digit
    · exact absurd plus (by decide)
    · exact absurd digit (by decide)

/-- A numeral can be a field. -/
theorem isToken_of_readUInt64 {start : List Char} {left : UInt64}
    (numeral : Numeral.readUInt64 start = .ok left) : IsToken start := by
  obtain ⟨digits, rfl | rfl, filled, allDigits, -⟩ := Numeral.readUInt64_eq_ok_iff.mp numeral
  · exact isToken_of_digits filled fun c member => .inr (allDigits c member)
  · refine isToken_of_digits (List.cons_ne_nil _ _) fun c member => ?_
    exact (List.mem_cons.mp member).imp_right (allDigits c)

/-- Reading looks at no field beyond the resident pages. -/
theorem read_of_common (fits : ∀ token ∈ tokens, IsToken token)
    (blank : ∀ c ∈ ending, isBlank c = true)
    (ok : read pid pageSize (statLine pid name tokens ++ ending) = .ok p)
    (fits' : ∀ token ∈ fields, IsToken token) (blank' : ∀ c ∈ ending', isBlank c = true)
    (enough : requiredFields ≤ fields.length)
    (common : fields.take requiredFields = tokens.take requiredFields) :
    read pid pageSize (statLine pid name fields ++ ending') = .ok p := by
  rw [read_statLine pid name pageSize fits blank] at ok
  rw [read_statLine pid name pageSize fits' blank', if_pos enough]
  split at ok
  · obtain ⟨values, carries, rfl⟩ := Parts.exists_carries ok
    have inFront : fields.take StatField.residentPages.index =
        tokens.take StatField.residentPages.index := by
      have taken := congrArg (List.take StatField.residentPages.index) common
      rwa [List.take_take, List.take_take] at taken
    have carries' : (Parts.ofTokens pid name fields).Carries values :=
      carries.of_common inFront
        ((Parts.wordAt_of_common common (by decide)).trans carries.residentPages)
    exact carries'.process pid pageSize
  · cases ok

/-- A line that ends with a shorter number of resident pages is the line of a process that
has these. -/
theorem read_of_shortened (fits : ∀ token ∈ tokens, IsToken token)
    (blank : ∀ c ∈ ending, isBlank c = true)
    (ok : read pid pageSize (statLine pid name tokens ++ ending) = .ok p)
    {start : List Char} {left : UInt64} (numeral : Numeral.readUInt64 start = .ok left) :
    read pid pageSize
        (statLine pid name (tokens.take StatField.residentPages.index ++ [start])) =
      .ok { p with residentMemory := (pageSize.map (Saturating.mul left)).getD 0 } := by
  have fits' : ∀ token ∈ tokens.take StatField.residentPages.index ++ [start], IsToken token := by
    intro token member
    rcases List.mem_append.mp member with kept | last
    · exact fits token (List.mem_of_mem_take kept)
    · rw [List.mem_singleton.mp last]
      exact isToken_of_readUInt64 numeral
  rw [read_statLine pid name pageSize fits blank] at ok
  split at ok
  case isTrue enough =>
    obtain ⟨values, carries, rfl⟩ := Parts.exists_carries ok
    have length : (tokens.take StatField.residentPages.index).length =
        StatField.residentPages.index := List.length_take_of_le (Nat.le_of_succ_le enough)
    have pages := Parts.wordAt_concat pid name start length
    rw [numeral] at pages
    have carries' := carries.of_common (List.take_left' length) pages
    have line := read_statLine pid name pageSize fits' (List.forall_mem_nil _)
    rw [List.append_nil, if_pos (by rw [List.length_append, length]; exact Nat.le_refl _)] at line
    rw [line, carries'.process pid pageSize]
    cases pageSize with
    | none => rfl
    | some size =>
      rw [Option.map_some, Option.getD_some, mul_eq_ofNat]
      rfl
  case isFalse => cases ok

/-- What is read of a cut depends on the place of the last token. -/
theorem read_of_inside {kept rest : List (List Char)} {start lost : List Char}
    (filled : start ≠ []) (fits : ∀ token ∈ kept ++ (start ++ lost) :: rest, IsToken token)
    (blank : ∀ c ∈ ending, isBlank c = true)
    (ok : read pid pageSize (statLine pid name (kept ++ (start ++ lost) :: rest) ++ ending) =
      .ok p) :
    (∃ fault, read pid pageSize (statLine pid name (kept ++ [start])) = .error fault) ∨
      read pid pageSize (statLine pid name (kept ++ [start])) = .ok p ∨
      kept.length = StatField.residentPages.index ∧
        ∃ left, Numeral.readUInt64 start = .ok left := by
  have whole := fits (start ++ lost) (List.mem_append_right kept List.mem_cons_self)
  have part : IsToken start :=
    ⟨filled, fun c member => whole.solid c (List.mem_append_left lost member),
      fun member => whole.closing (List.mem_append_left lost member)⟩
  have fits' : ∀ token ∈ kept ++ [start], IsToken token := by
    intro token member
    rcases List.mem_append.mp member with listed | last
    · exact fits token (List.mem_append_left _ listed)
    · rwa [List.mem_singleton.mp last]
  have line := read_statLine pid name pageSize fits' (List.forall_mem_nil _)
  rw [List.append_nil, List.length_append, List.length_singleton] at line
  rcases Nat.lt_trichotomy kept.length StatField.residentPages.index with before | there | after
  · have tooFew : ¬ requiredFields ≤ kept.length + 1 := Nat.not_le.mpr (Nat.succ_lt_succ before)
    rw [if_neg tooFew] at line
    exact .inl ⟨_, line⟩
  · cases numeral : Numeral.readUInt64 start with
    | ok left => exact .inr (.inr ⟨there, left, rfl⟩)
    | error fault =>
      have refused := Parts.wordAt_concat pid name start there
      have enough : requiredFields ≤ kept.length + 1 := Nat.succ_le_succ (Nat.le_of_eq there.symm)
      rw [numeral] at refused
      rw [if_pos enough, Parts.process, refused] at line
      exact .inl ⟨_, line⟩
  · have whole : requiredFields ≤ kept.length := after
    have enough : requiredFields ≤ (kept ++ [start]).length := by
      rw [List.length_append]
      exact Nat.le_add_right_of_le whole
    have common : (kept ++ [start]).take requiredFields =
        (kept ++ (start ++ lost) :: rest).take requiredFields := by
      rw [List.take_append_of_le_length whole, List.take_append_of_le_length whole]
    have same := read_of_common fits blank ok fits' (List.forall_mem_nil _) enough common
    rw [List.append_nil] at same
    exact .inr (.inl same)

/-- A cut of a line that is read either is refused, or is read as the whole line, or ends in
a shorter number of resident pages. -/
theorem read_of_cut (fits : ∀ token ∈ tokens, IsToken token)
    (blank : ∀ c ∈ ending, isBlank c = true)
    (ok : read pid pageSize (statLine pid name tokens ++ ending) = .ok p)
    (shorter : Cut pid name tokens cut) :
    (∃ fault, read pid pageSize cut = .error fault) ∨ read pid pageSize cut = .ok p ∨
      ∃ start left, Numeral.readUInt64 start = .ok left ∧
        cut = statLine pid name (tokens.take StatField.residentPages.index ++ [start]) := by
  cases shorter with
  | unclosed noClosing => exact .inl ⟨_, read_of_unclosed noClosing⟩
  | @between kept blanks whole blank' =>
    have fits' : ∀ token ∈ kept, IsToken token := fun token member =>
      fits token (whole.subset member)
    by_cases enough : requiredFields ≤ kept.length
    · obtain ⟨rest, rfl⟩ := whole
      refine .inr (.inl (read_of_common fits blank ok fits' blank' enough ?_))
      exact (List.take_append_of_le_length enough).symm
    · refine .inl ⟨.tooFewFields kept.length, ?_⟩
      rw [read_statLine pid name pageSize fits' blank', if_neg enough]
  | @inside kept rest start lost parts filled =>
    subst parts
    rcases read_of_inside filled fits blank ok with refused | same | ⟨there, left, numeral⟩
    · exact .inl refused
    · exact .inr (.inl same)
    · exact .inr (.inr ⟨start, left, numeral, by rw [List.take_left' there]⟩)

/-- What is read of a cut differs from the process of the whole line at most in its resident
memory, and it does so exactly when the cut is in the number of resident pages, leaves a
numeral there, and the page size is known. -/
theorem read_cut_iff (closing : ')' ∉ name) (fits : ∀ token ∈ tokens, IsToken token)
    (blank : ∀ c ∈ ending, isBlank c = true)
    (ok : read pid pageSize (statLine pid name tokens ++ ending) = .ok p)
    (shorter : cut <+: statLine pid name tokens ++ ending) :
    (((∃ fault, read pid pageSize cut = .error fault) ∨ read pid pageSize cut = .ok p) ↔
      ∀ start left size,
        cut = statLine pid name (tokens.take StatField.residentPages.index ++ [start]) →
        Numeral.readUInt64 start = .ok left → pageSize = some size →
        Saturating.mul left size = p.residentMemory) ∧
    ∀ q, read pid pageSize cut = .ok q → q = { p with residentMemory := q.residentMemory } := by
  have outcome := read_of_cut fits blank ok (cut_of_shorter closing blank shorter)
  refine ⟨⟨?_, ?_⟩, ?_⟩
  · rintro unharmed start left size rfl numeral rfl
    have misread := read_of_shortened fits blank ok numeral
    rcases unharmed with ⟨fault, refused⟩ | same
    · rw [misread] at refused
      cases refused
    · rw [misread, Except.ok.injEq] at same
      exact congrArg ProcessRecord.residentMemory same
  · intro covered
    rcases outcome with refused | same | ⟨start, left, numeral, rfl⟩
    · exact .inl refused
    · exact .inr same
    · refine .inr ?_
      rw [read_of_shortened fits blank ok numeral]
      cases pageSize with
      | none => rw [← residentMemory_of_read ok]; rfl
      | some size => rw [Option.map_some, Option.getD_some, covered start left size rfl numeral rfl]
  · intro q ok'
    rcases outcome with ⟨fault, refused⟩ | same | ⟨start, left, numeral, rfl⟩
    · rw [refused] at ok'
      cases ok'
    · rw [same, Except.ok.injEq] at ok'
      rw [ok']
    · rw [read_of_shortened fits blank ok numeral, Except.ok.injEq] at ok'
      rw [← ok']

/-- The fields of a sleeping process with some resident pages. -/
def sleeping (pages : Nat) : List (List Char) :=
  ['S'] :: [1, 7, 7, 0, 0, 0, 0, 0, 0, 0, 10, 0, 0, 0, 20, 0, 1, 0, 10, 1000, pages].map
    (Nat.toDigits 10)

/-- The process of a line with these fields. -/
def sleeper (residentMemory : UInt64) : ProcessRecord where
  pid := 7
  parent := 1
  group := 7
  session := 7
  name := "a"
  virtualMemory := 1000
  residentMemory := residentMemory
  userTicks := 10
  systemTicks := 0
  startTime := some 10

theorem isToken_of_mem_sleeping (pages : Nat) : ∀ token ∈ sleeping pages, IsToken token := by
  intro token member
  rcases List.mem_cons.mp member with rfl | listed
  · exact ⟨List.cons_ne_nil _ _, List.forall_mem_singleton.mpr rfl, by decide⟩
  · obtain ⟨n, -, rfl⟩ := List.mem_map.mp listed
    exact isToken_of_digits Nat.toDigits_ne_nil fun c digit => .inr (isDigit_of_mem_toDigits digit)

/-- A cut from 25 resident pages to 2 is read as another process, unless the page size is
not known. -/
theorem read_cut_of_shortened_pages :
    let line := statLine 7 ['a'] (sleeping 25)
    let cut := statLine 7 ['a'] (sleeping 2)
    read 7 (some 4096) line = .ok (sleeper 102400) ∧ read 7 none line = .ok (sleeper 0) ∧
    ¬ ((∃ fault, read 7 (some 4096) cut = .error fault) ∨
      read 7 (some 4096) cut = .ok (sleeper 102400)) ∧
    ((∃ fault, read 7 none cut = .error fault) ∨ read 7 none cut = .ok (sleeper 0)) := by
  intro line cut
  have shorter : cut <+: line ++ [] := ⟨['5'], rfl⟩
  refine ⟨rfl, rfl, ?_, ?_⟩
  · intro unharmed
    have same := (read_cut_iff (p := sleeper 102400) (by decide) (isToken_of_mem_sleeping 25)
      (List.forall_mem_nil _) rfl shorter).1.mp unharmed
    exact absurd (same ['2'] 2 4096 rfl rfl rfl) (by decide)
  · refine (read_cut_iff (p := sleeper 0) (by decide) (isToken_of_mem_sleeping 25)
      (List.forall_mem_nil _) rfl shorter).1.mpr ?_
    intro start left size _ _ known
    cases known

/-- A cut of a line that is read can be read as another process. -/
theorem not_read_cut :
    ¬ ∀ (pid : Pid) (pageSize : Option UInt64) (name : List Char) (tokens : List (List Char))
      (p : ProcessRecord) (cut : List Char),
      ')' ∉ name → 22 ≤ tokens.length → (∀ token ∈ tokens, IsToken token) →
      read pid pageSize (statLine pid name tokens) = .ok p →
      cut <+: statLine pid name tokens → cut ≠ statLine pid name tokens →
      (∃ fault, read pid pageSize cut = .error fault) ∨ read pid pageSize cut = .ok p := by
  intro unharmed
  have strict : statLine 7 ['a'] (sleeping 2) ≠ statLine 7 ['a'] (sleeping 25) :=
    fun same => absurd (congrArg List.length same) (by decide)
  have outcome := unharmed 7 (some 4096) ['a'] (sleeping 25) (sleeper 102400) _
    (by decide) (by decide) (isToken_of_mem_sleeping 25) rfl ⟨['5'], rfl⟩ strict
  have misread : read 7 (some 4096) (statLine 7 ['a'] (sleeping 2)) = .ok (sleeper 8192) := rfl
  rw [misread] at outcome
  rcases outcome with ⟨fault, refused⟩ | same
  · cases refused
  · exact absurd (Except.ok.inj same) (by decide)

end ProcessAccounting.Proc.StatLine
