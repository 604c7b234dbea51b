import ProcessAccounting.Proofs.Proc.Scripted

/-!
# How often a scan opens files

Each time that a pid stands in the listing, its stat file is opened once and again for every
repeated attempt, and its command line at most once.  A scan is therefore bounded for a process
exactly when the listing does not name the process twice: `scan_bounded_iff`.
-/

namespace ProcessAccounting.Proc.Reader

variable {r : Reader} {pid : Pid} {file : FileKind}

theorem timesOpened_access_self (usable : r.pathIsUsable = true) (d : Directory) :
    (r.access d pid file).2.timesOpened pid file = d.timesOpened pid file + 1 := by
  rw [access_of_usable usable]
  exact List.count_cons_self

/-- An attempt opens the stat file once, unless the path cannot be asked about. -/
theorem timesOpened_stat_readOnce (r : Reader) (pid : Pid) (d : Directory) :
    (r.readOnce pid d).2.timesOpened pid .stat =
      d.timesOpened pid .stat + if r.pathIsUsable then 1 else 0 := by
  have first : (r.access d pid .stat).2.timesOpened pid .stat =
      d.timesOpened pid .stat + if r.pathIsUsable then 1 else 0 := by
    cases usable : r.pathIsUsable with
    | true => rw [timesOpened_access_self usable, if_pos rfl]
    | false =>
      rw [access_of_unusable usable]
      rfl
  rcases r.readOnce_cases pid d with ⟨report, failed⟩ | ⟨p, read⟩
  · rw [failed, first]
  · rw [read, timesOpened_access_of_ne (by simp), first]

/-- An attempt opens the command line exactly when it succeeds. -/
theorem timesOpened_commandLine_readOnce (r : Reader) (pid : Pid) (d : Directory) :
    (r.readOnce pid d).2.timesOpened pid .commandLine =
      d.timesOpened pid .commandLine + if (r.readOnce pid d).1.isOk then 1 else 0 := by
  have kinds : (pid, FileKind.stat) ≠ (pid, FileKind.commandLine) := by simp
  have frame := timesOpened_access_of_ne (r := r) kinds d
  rcases r.readOnce_cases pid d with ⟨report, failed⟩ | ⟨p, read⟩
  · rw [failed]
    exact frame
  · have usable : r.pathIsUsable = true := by
      by_contra unusable
      rw [Bool.not_eq_true] at unusable
      simp [readOnce, access_of_unusable unusable] at read
    rw [read, timesOpened_access_self usable, frame]
    rfl

theorem isOk_of_isTransient {outcome : Outcome} (transient : isTransient outcome = true) :
    outcome.isOk = false := by
  cases outcome with
  | error report => rfl
  | ok p => cases transient

/-- Up to `n` repetitions open the stat file once each. -/
theorem timesOpened_stat_readRepeatedly_le (n : Nat) (d : Directory) :
    (r.readRepeatedly pid n d).2.timesOpened pid .stat ≤ d.timesOpened pid .stat + (1 + n) := by
  have once (d : Directory) : (r.readOnce pid d).2.timesOpened pid .stat ≤
      d.timesOpened pid .stat + 1 := by
    rw [timesOpened_stat_readOnce]
    split <;> omega
  induction n generalizing d with
  | zero => exact once d
  | succ n ih =>
    have first := once d
    have rest := ih (r.readOnce pid d).2
    simp only [readRepeatedly]
    split
    · omega
    · show (r.readOnce pid d).2.timesOpened pid .stat ≤ _
      omega

/-- An attempt that is repeated has failed before the command line, so that the command line
is opened after the last attempt only. -/
theorem timesOpened_commandLine_readRepeatedly_le (n : Nat) (d : Directory) :
    (r.readRepeatedly pid n d).2.timesOpened pid .commandLine ≤
      d.timesOpened pid .commandLine + 1 := by
  have once (d : Directory) : (r.readOnce pid d).2.timesOpened pid .commandLine ≤
      d.timesOpened pid .commandLine + 1 := by
    rw [timesOpened_commandLine_readOnce]
    split <;> omega
  induction n generalizing d with
  | zero => exact once d
  | succ n ih =>
    simp only [readRepeatedly]
    split
    · next again =>
      have first := timesOpened_commandLine_readOnce r pid d
      rw [isOk_of_isTransient again] at first
      exact Nat.le_trans (ih _) (Nat.le_of_eq (congrArg (· + 1) first))
    · exact once d

/-- Attempts that all fail for the moment use up every repetition. -/
theorem timesOpened_stat_readRepeatedly_of_transient (usable : r.pathIsUsable = true)
    {start : Directory}
    (transient : ∀ e, start.Later e → isTransient (r.readOnce pid e).1 = true) (n : Nat)
    {d : Directory} (later : start.Later d) :
    (r.readRepeatedly pid n d).2.timesOpened pid .stat = d.timesOpened pid .stat + (1 + n) := by
  have opens (d : Directory) :
      (r.readOnce pid d).2.timesOpened pid .stat = d.timesOpened pid .stat + 1 := by
    rw [timesOpened_stat_readOnce, if_pos usable]
  induction n generalizing d with
  | zero => exact opens d
  | succ n ih =>
    have first := opens d
    have rest := ih (later.trans (later_readOnce (r := r) d pid))
    simp only [readRepeatedly, transient d later, if_true]
    omega

section Listing

variable {k : Nat}

/-- What reading the process once may open, reading each of the pids may open once for every
time that the pid is among them. -/
theorem timesOpened_readEach_le
    (atMost : ∀ e, (r.readProcess pid e).2.timesOpened pid file ≤ e.timesOpened pid file + k)
    (pids : List Pid) (d : Directory) :
    (r.readEach pids d).2.timesOpened pid file ≤
      d.timesOpened pid file + pids.count pid * k := by
  induction pids generalizing d with
  | nil => simp [readEach]
  | cons other pids ih =>
    show (r.readEach pids (r.readProcess other d).2).2.timesOpened pid file ≤ _
    have rest := ih (r.readProcess other d).2
    by_cases same : other = pid
    · subst same
      have first := atMost d
      rw [List.count_cons_self, Nat.add_mul, Nat.one_mul]
      omega
    · rw [timesOpened_readProcess_of_ne same] at rest
      rwa [List.count_cons_of_ne same]

/-- What reading the process opens every time, reading each of the pids opens once for every
time that the pid is among them. -/
theorem le_timesOpened_readEach {start : Directory}
    (atLeast : ∀ e, start.Later e →
      e.timesOpened pid file + k ≤ (r.readProcess pid e).2.timesOpened pid file)
    (pids : List Pid) {d : Directory} (later : start.Later d) :
    d.timesOpened pid file + pids.count pid * k ≤
      (r.readEach pids d).2.timesOpened pid file := by
  induction pids generalizing d with
  | nil => simp [readEach]
  | cons other pids ih =>
    show _ ≤ (r.readEach pids (r.readProcess other d).2).2.timesOpened pid file
    have rest := ih (later.trans (later_readProcess (r := r) d other))
    by_cases same : other = pid
    · subst same
      have first := atLeast d later
      rw [List.count_cons_self, Nat.add_mul, Nat.one_mul]
      omega
    · rw [timesOpened_readProcess_of_ne same] at rest
      rwa [List.count_cons_of_ne same]

/-- A process that can always be read is found once for every time that it is listed. -/
theorem count_found_readEach {start : Directory}
    (readable : ∀ e, start.Later e → ∃ p, (r.readProcess pid e).1 = .ok p)
    (pids : List Pid) {d : Directory} (later : start.Later d) :
    pids.count pid ≤ ((found (r.readEach pids d).1).map (·.pid)).count pid := by
  induction pids generalizing d with
  | nil => simp
  | cons other pids ih =>
    have rest := ih (later.trans (later_readProcess (r := r) d other))
    rw [found_readEach_cons, List.map_append, List.count_append]
    by_cases same : other = pid
    · subst same
      obtain ⟨p, read⟩ := readable d later
      have head : (found [(r.readProcess other d).1]).map (·.pid) = [other] := by
        have samePid : p.pid = other := pid_of_readRepeatedly r.retries.toNat read
        rw [read, ← samePid]
        rfl
      rw [head, List.count_cons_self, List.count_cons_self, List.count_nil]
      omega
    · rw [List.count_cons_of_ne same]
      omega

end Listing

/-- A scan opens the files of a process in as many rounds as the listing names the process. -/
theorem timesOpened_scan_le {k : Nat}
    (atMost : ∀ e, (r.readProcess pid e).2.timesOpened pid file ≤ e.timesOpened pid file + k)
    (d : Directory) :
    (r.scan d).2.timesOpened pid file ≤
      d.timesOpened pid file + (listedPids d.listedNames).count pid * k := by
  unfold scan
  cases listed : r.pids d with
  | error fault => exact Nat.le_add_right _ _
  | ok pids =>
    rw [← pids_eq_listedPids listed]
    exact timesOpened_readEach_le atMost pids d

/-- A process that is not listed twice is read in no more than one round. -/
theorem timesOpened_scan_le_of_once {k : Nat}
    (atMost : ∀ e, (r.readProcess pid e).2.timesOpened pid file ≤ e.timesOpened pid file + k)
    {d : Directory}
    (once : r.pathIsUsable = false ∨ (listedPids d.listedNames).count pid ≤ 1) :
    (r.scan d).2.timesOpened pid file ≤ d.timesOpened pid file + k := by
  rcases once with unusable | once
  · rw [scan_of_unusable unusable]
    exact Nat.le_add_right _ _
  · have rounds : (listedPids d.listedNames).count pid * k ≤ 1 * k := Nat.mul_le_mul_right k once
    have all := timesOpened_scan_le atMost d
    omega

theorem count_pids_scan {d : Directory} {records : List ProcessRecord}
    (scanned : (r.scan d).1 = .ok records) (pid : Pid) :
    (records.map (·.pid)).count pid ≤ (listedPids d.listedNames).count pid :=
  (pids_scan scanned).count_le pid

section Steady

/-! A process whose stat file gives one and the same answer whenever it is opened. -/

/-- A directory with a listing in which every stat file always gives the same answer. -/
def steady (pid : Pid) (answer : Response) (names : List (List UInt8)) : Directory :=
  .scripted (fun _ => [answer]) [entryName pid] names

variable {answer : Response} {names : List (List UInt8)} {d : Directory}

theorem access_steady (usable : r.pathIsUsable = true)
    (later : (steady pid answer names).Later d) :
    (r.access d pid .stat).1 = answer.mapError .refused := by
  have answers : d.responses pid .stat = [answer] := by
    rw [later.responses]
    exact Directory.responses_scripted List.mem_cons_self
  rw [answer_of_usable usable, answers]
  cases d.timesOpened pid .stat with
  | zero => rfl
  | succ k => rfl

/-- A process with an empty stat file cannot be read, but another attempt might succeed. -/
theorem isTransient_readOnce_of_empty (held : (r.access d pid .stat).1 = .ok []) :
    isTransient (r.readOnce pid d).1 = true := by
  unfold readOnce
  cases opened : r.access d pid .stat with
  | mk answer e =>
    rw [opened] at held
    cases held
    rfl

theorem timesOpened_steady (file : FileKind) :
    (steady pid answer names).timesOpened pid file = 0 := rfl

variable (usable : r.pathIsUsable = true)

include usable

theorem scan_steady : r.scan (steady pid answer names) =
    (r.summarise (r.readEach (listedPids names) (steady pid answer names)).1,
      (r.readEach (listedPids names) (steady pid answer names)).2) := by
  have listed : (steady pid answer names).listedNames = names := Directory.listedNames_scripted
  rw [scan_of_usable usable rfl, listed]

variable (pid names)

/-- Every time that an unreadable process is listed, all its attempts are spent. -/
theorem le_timesOpened_scan_of_empty :
    (listedPids names).count pid * (1 + r.retries.toNat) ≤
      (r.scan (steady pid (.ok []) names)).2.timesOpened pid .stat := by
  have atLeast (e : Directory) (later : (steady pid (.ok []) names).Later e) :
      e.timesOpened pid .stat + (1 + r.retries.toNat) ≤
        (r.readProcess pid e).2.timesOpened pid .stat :=
    Nat.le_of_eq (timesOpened_stat_readRepeatedly_of_transient usable
      (fun e later => isTransient_readOnce_of_empty (access_steady usable later))
      r.retries.toNat later).symm
  have all := le_timesOpened_readEach atLeast (listedPids names) (.refl _)
  rw [timesOpened_steady, Nat.zero_add] at all
  rwa [scan_steady usable]

/-- Every time that a readable process is listed, its command line is opened. -/
theorem le_timesOpened_scan_of_childStat :
    (listedPids names).count pid ≤
      (r.scan (steady pid (.ok (childStat pid 0)) names)).2.timesOpened pid .commandLine := by
  have atLeast (e : Directory) (later : (steady pid (.ok (childStat pid 0)) names).Later e) :
      e.timesOpened pid .commandLine + 1 ≤
        (r.readProcess pid e).2.timesOpened pid .commandLine := by
    have kinds : (pid, FileKind.stat) ≠ (pid, FileKind.commandLine) := by simp
    have opened : (r.readProcess pid e).2.timesOpened pid .commandLine =
        e.timesOpened pid .commandLine + 1 := by
      rw [(readProcess_of_childStat (access_steady usable later)).2,
        timesOpened_access_self usable, timesOpened_access_of_ne kinds]
    exact Nat.le_of_eq opened.symm
  have all := le_timesOpened_readEach atLeast (listedPids names) (.refl _)
  rw [timesOpened_steady, Nat.zero_add, Nat.mul_one] at all
  rwa [scan_steady usable]

/-- Every time that a readable process is listed, it is found. -/
theorem exists_scan_of_childStat (listed : 0 < (listedPids names).count pid) :
    ∃ records, (r.scan (steady pid (.ok (childStat pid 0)) names)).1 = .ok records ∧
      (listedPids names).count pid ≤ (records.map (·.pid)).count pid := by
  have readable (e : Directory) (later : (steady pid (.ok (childStat pid 0)) names).Later e) :
      ∃ p, (r.readProcess pid e).1 = .ok p := by
    obtain ⟨⟨p, read, -⟩, -⟩ := readProcess_of_childStat (access_steady usable later)
    exact ⟨p, read⟩
  obtain ⟨p, member, -⟩ := mem_found_readEach (List.count_pos_iff.mp listed) readable
  refine ⟨_, ?_, count_found_readEach readable (listedPids names) (.refl _)⟩
  rw [scan_steady usable]
  exact summarise_of_mem member

end Steady

variable {system : SystemUnits} {config : Config} {names : List (List UInt8)}

theorem retries_of_ofConfig (accepted : ofConfig system config = .ok r) :
    r.retries = config.retries := by
  obtain ⟨-, -, ok⟩ := exists_of_bind_eq_ok accepted
  cases ok
  rfl

/-- Over all directories with a listing in which no name occurs twice, a scan opens the stat
file of a process no more often than it may be attempted, opens its command line no more than
once and gives no more than one record of it, each exactly when no two of the names are names
of that process or the path is one that the system cannot be asked about. -/
theorem scan_bounded_iff (accepted : ofConfig system config = .ok r) (distinct : names.Nodup)
    (pid : Pid) :
    let shows (d : Directory) : Prop := d.listedNames = names ∧ (d.entries.map (·.name)).Nodup
    let once : Prop := r.pathIsUsable = false ∨ (listedPids names).count pid ≤ 1
    ((∀ d, shows d → (r.scan d).2.timesOpened pid .stat ≤
        d.timesOpened pid .stat + (1 + config.retries.toNat)) ↔ once) ∧
    ((∀ d, shows d → (r.scan d).2.timesOpened pid .commandLine ≤
        d.timesOpened pid .commandLine + 1) ↔ once) ∧
    ((∀ d, shows d → ∀ records, (r.scan d).1 = .ok records →
        (records.map (·.pid)).count pid ≤ 1) ↔ once) := by
  intro shows once
  have steadyShows (answer : Response) : shows (steady pid answer names) :=
    ⟨Directory.listedNames_scripted, Directory.nodup_scripted distinct (by simp)⟩
  -- A bound that the steady directories keep bounds how often the process is listed.
  have of_usable (bounded : r.pathIsUsable = true → (listedPids names).count pid ≤ 1) : once := by
    cases usable : r.pathIsUsable with
    | false => exact .inl usable
    | true => exact .inr (bounded usable)
  refine ⟨⟨?_, ?_⟩, ⟨?_, ?_⟩, ⟨?_, ?_⟩⟩
  · intro bounded
    apply of_usable
    intro usable
    have rounds := le_timesOpened_scan_of_empty pid names usable
    have opened := Nat.le_trans rounds (bounded _ (steadyShows (.ok [])))
    rw [timesOpened_steady, Nat.zero_add, retries_of_ofConfig accepted] at opened
    exact Nat.le_of_mul_le_mul_right (by rwa [Nat.one_mul]) (by omega)
  · rintro once d ⟨rfl, -⟩
    rw [← retries_of_ofConfig accepted]
    exact timesOpened_scan_le_of_once (timesOpened_stat_readRepeatedly_le r.retries.toNat) once
  · intro bounded
    apply of_usable
    intro usable
    have rounds := le_timesOpened_scan_of_childStat pid names usable
    exact Nat.le_trans rounds (bounded _ (steadyShows _))
  · rintro once d ⟨rfl, -⟩
    exact timesOpened_scan_le_of_once
      (timesOpened_commandLine_readRepeatedly_le r.retries.toNat) once
  · intro bounded
    apply of_usable
    intro usable
    by_contra twice
    obtain ⟨records, scanned, rounds⟩ :=
      exists_scan_of_childStat pid names usable (by omega)
    have found := bounded _ (steadyShows _) records scanned
    omega
  · rintro once d ⟨rfl, -⟩ records scanned
    rcases once with unusable | once
    · rw [scan_of_unusable unusable] at scanned
      cases scanned
    · exact Nat.le_trans (count_pids_scan scanned pid) once

theorem scan_bounded_of_two_names :
    let reader : Reader :=
      { path := "/proc", pageSize := some 4096, tickRate := some 100, retries := 2 }
    let names : List (List UInt8) := [[0x37], [0x38]]
    ofConfig {} {} = .ok reader ∧ names.Nodup ∧
      ∀ d : Directory, d.listedNames = names → (d.entries.map (·.name)).Nodup →
        (reader.scan d).2.timesOpened 7 .stat ≤ d.timesOpened 7 .stat + 3 ∧
        (reader.scan d).2.timesOpened 7 .commandLine ≤ d.timesOpened 7 .commandLine + 1 ∧
        ∀ records, (reader.scan d).1 = .ok records → (records.map (·.pid)).count 7 ≤ 1 := by
  intro reader names
  have accepted : ofConfig {} {} = .ok reader := by decide +kernel
  have distinct : names.Nodup := by decide
  have once : (listedPids names).count 7 ≤ 1 := by decide +kernel
  refine ⟨accepted, distinct, ?_⟩
  intro d listing entries
  obtain ⟨stat, commandLine, records⟩ := scan_bounded_iff accepted distinct 7
  exact ⟨stat.mpr (.inr once) d ⟨listing, entries⟩,
    commandLine.mpr (.inr once) d ⟨listing, entries⟩, records.mpr (.inr once) d ⟨listing, entries⟩⟩

/-- Names that differ can be names of one process, which a scan then reads more than once. -/
theorem not_scan_bounded_of_distinct_names :
    ¬ ∀ (system : SystemUnits) (config : Config) (r : Reader) (d : Directory) (pid : Pid),
      ofConfig system config = .ok r → (d.entries.map (·.name)).Nodup →
      (r.scan d).2.timesOpened pid .stat ≤
        d.timesOpened pid .stat + (1 + config.retries.toNat) ∧
      (r.scan d).2.timesOpened pid .commandLine ≤ d.timesOpened pid .commandLine + 1 ∧
      ∀ records, (r.scan d).1 = .ok records → (records.map (·.pid)).count pid ≤ 1 := by
  intro bounded
  let directory : Directory := { entries := [
    { name := [0x37], stat := [.ok (childStat 7 1)] }, { name := [0x2B, 0x37] }] }
  let reader : Reader :=
    { path := "/proc", pageSize := some 4096, tickRate := some 100, retries := 0 }
  have accepted : ofConfig {} { retries := 0 } = .ok reader := by decide +kernel
  have opened := (bounded {} { retries := 0 } reader directory 7 accepted (by decide)).1
  revert opened
  decide +kernel

end ProcessAccounting.Proc.Reader
