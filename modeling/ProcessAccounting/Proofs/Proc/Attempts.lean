import ProcessAccounting.Proofs.Proc.Openings

/-!
# Attempts to read a process

A process is read in a loop with a counter.  It ends with the first attempt whose outcome
another one would not change, or when no repetition is left.  What each attempt gives is decided
by the answer that the stat file is due to give, so the end of the loop can be told from the
answers alone: `readProcess_ends`.
-/

namespace ProcessAccounting.Proc

/-- The process was read, is gone, or may not be read. -/
inductive Settled (pid : Pid) : Outcome → Prop
  | read (p : ProcessRecord) : Settled pid (.ok p)
  | gone {report : Report} (cause : report.cause = .gone pid) : Settled pid (.error report)
  | denied {report : Report} {reason : String} (cause : report.cause = .denied pid reason) :
      Settled pid (.error report)

/-- What it means for a process that its stat file could not be opened, by the number of the
error: the process has ended, it may not be read, or it could not be read for the moment. -/
inductive AccessFault.Means (pid : Pid) : AccessFault → Fault → Prop
  | gone {errno : Errno} (ended : errno ∈ [2, 3]) : Means pid (.refused errno) (.gone pid)
  | denied {errno : Errno} (forbidden : errno ∈ [1, 13]) :
      Means pid (.refused errno) (.denied pid errno.message)
  | unreadable {errno : Errno} (other : errno ∉ [1, 2, 3, 13]) :
      Means pid (.refused errno) (.unreadable pid errno.message)
  | zeroInPath :
      Means pid .zeroInPath (.unreadable pid "file name contained an unexpected NUL byte")

/-- The loop before an attempt: how often it has repeated one, and the directory by then. -/
structure Attempt where
  repeats : UInt32
  directory : Directory

namespace Reader

/-- The answer to opening a file for the `i`-th time from now on, counted from 0. -/
def answer (r : Reader) (pid : Pid) (file : FileKind) (d : Directory) (i : Nat) :
    Except AccessFault (List UInt8) :=
  if r.pathIsUsable then
    (Directory.response (d.responses pid file) (d.timesOpened pid file + i)).mapError .refused
  else .error .zeroInPath

/-- What an attempt makes of the answers of the two files. -/
def outcomeOf (r : Reader) (pid : Pid) (stat commandLine : Except AccessFault (List UInt8)) :
    Outcome :=
  match stat with
  | .error fault => .error { cause := fault.toFault pid }
  | .ok contents => (r.interpret pid contents).map fun p =>
    { p with commandLine := commandLineOf commandLine }

/-- The outcome of the `i`-th attempt from now on, counted from 0, if all before it fail. -/
def outcomeAt (r : Reader) (pid : Pid) (d : Directory) (i : Nat) : Outcome :=
  r.outcomeOf pid (r.answer pid .stat d i) (r.answer pid .commandLine d 0)

/-- The loop goes through some attempts and ends with a result.  An attempt is repeated when it
has failed for the moment and the counter has not reached the number of retries. -/
inductive Loop (r : Reader) (pid : Pid) : Attempt → List Attempt → Outcome × Directory → Prop
  | done {a : Attempt}
      (last : isTransient (r.readOnce pid a.directory).1 = false ∨ ¬ a.repeats < r.retries) :
      Loop r pid a [a] (r.readOnce pid a.directory)
  | again {a : Attempt} {attempts : List Attempt} {result : Outcome × Directory}
      (transient : isTransient (r.readOnce pid a.directory).1 = true)
      (left : a.repeats < r.retries)
      (rest : Loop r pid ⟨a.repeats + 1, (r.readOnce pid a.directory).2⟩ attempts result) :
      Loop r pid a (a :: attempts) result

/-- Of the attempts 0, ..., `allowed` from now on, `last` is the one that ends the loop with a
result: the first that is settled, or the last that is allowed. -/
structure Ends (r : Reader) (pid : Pid) (d : Directory) (allowed last : Nat)
    (result : Outcome × Directory) : Prop where
  within : last ≤ allowed
  before : ∀ i < last, ¬ Settled pid (r.outcomeAt pid d i)
  settled : Settled pid (r.outcomeAt pid d last) ∨ last = allowed
  outcome : result.1 = r.outcomeAt pid d last
  /-- The stat file is opened once by every attempt, unless the path cannot be asked about. -/
  stat : result.2.timesOpened pid .stat =
    d.timesOpened pid .stat + if r.pathIsUsable then last + 1 else 0
  commandLine : result.2.timesOpened pid .commandLine =
    d.timesOpened pid .commandLine + if (r.outcomeAt pid d last).isOk then 1 else 0

variable {r : Reader} {d e : Directory} {pid : Pid} {file : FileKind}

theorem means_toFault (pid : Pid) (fault : AccessFault) : fault.Means pid (fault.toFault pid) := by
  cases fault with
  | zeroInPath => exact .zeroInPath
  | refused errno =>
    simp only [AccessFault.toFault, AccessFault.refused.injEq, Errno.noSuchFile,
      Errno.noSuchProcess, Errno.notPermitted, Errno.permissionDenied]
    split
    · next ended => exact .gone (by simpa using ended)
    · next running =>
      split
      · next forbidden => exact .denied (by simpa using forbidden)
      · next allowed => exact .unreadable (by simp_all)

/-- An attempt that cannot open the stat file fails with what that means. -/
theorem outcomeOf_error (r : Reader) (pid : Pid) (fault : AccessFault)
    (commandLine : Except AccessFault (List UInt8)) :
    ∃ cause, fault.Means pid cause ∧
      r.outcomeOf pid (.error fault) commandLine = .error { cause := cause } :=
  ⟨fault.toFault pid, means_toFault pid fault, rfl⟩

theorem fst_access (d : Directory) (pid : Pid) (file : FileKind) :
    (r.access d pid file).1 = r.answer pid file d 0 := by
  cases usable : r.pathIsUsable with
  | true => rw [access_of_usable usable, answer, if_pos usable, Nat.add_zero]
  | false => rw [access_of_unusable usable, answer, if_neg (by simp [usable])]

/-- An attempt makes of the two files what is due of them. -/
theorem fst_readOnce (r : Reader) (pid : Pid) (d : Directory) :
    (r.readOnce pid d).1 = r.outcomeAt pid d 0 := by
  have arguments : (r.access (r.access d pid .stat).2 pid .commandLine).1 =
      r.answer pid .commandLine d 0 :=
    (access_access_of_ne (by simp)).trans (fst_access d pid .commandLine)
  rw [outcomeAt, ← arguments, ← fst_access]
  unfold readOnce outcomeOf
  cases opened : r.access d pid .stat with
  | mk answer e =>
    cases answer with
    | error fault => rfl
    | ok contents =>
      cases interpreted : r.interpret pid contents with
      | error report =>
        simp only [interpreted]
        rfl
      | ok p =>
        have none_yet := StatLine.commandLine_of_read (read_of_interpret interpreted)
        simp only [interpreted]
        cases r.access e pid .commandLine with
        | mk answer f =>
          cases answer with
          | error fault =>
            simp only [Except.map, commandLineOf, ← none_yet]
          | ok raw => rfl

/-- An outcome of an attempt is settled exactly when another one is not made. -/
theorem isTransient_outcomeOf_iff {stat commandLine : Except AccessFault (List UInt8)} :
    isTransient (r.outcomeOf pid stat commandLine) = true ↔
      ¬ Settled pid (r.outcomeOf pid stat commandLine) := by
  cases stat with
  | error fault =>
    obtain ⟨cause, means, failed⟩ := outcomeOf_error r pid fault commandLine
    rw [failed]
    cases means with
    | gone => exact iff_of_false Bool.false_ne_true (fun h => h (.gone rfl))
    | denied => exact iff_of_false Bool.false_ne_true (fun h => h (.denied rfl))
    | unreadable | zeroInPath =>
      refine iff_of_true rfl ?_
      rintro (_ | cause | cause) <;> cases cause
  | ok contents =>
    rw [outcomeOf]
    cases read : r.interpret pid contents with
    | error report =>
      rw [interpret, mapError_eq_error_iff] at read
      obtain ⟨fault, -, rfl⟩ := read
      refine iff_of_true rfl ?_
      rintro (_ | cause | cause) <;> cases cause
    | ok p => exact iff_of_false Bool.false_ne_true (fun h => h (.read _))

/-- After an attempt that has failed, the stat file has given one more of its answers. -/
theorem outcomeAt_readOnce (failed : (r.readOnce pid d).1.isOk = false) (i : Nat) :
    r.outcomeAt pid (r.readOnce pid d).2 i = r.outcomeAt pid d (i + 1) := by
  have later : d.Later (r.readOnce pid d).2 := later_readOnce d pid
  have stat := timesOpened_stat_readOnce r pid d
  have commandLine := timesOpened_commandLine_readOnce r pid d
  rw [failed] at commandLine
  simp only [outcomeAt, answer, later.responses, stat, commandLine]
  cases r.pathIsUsable with
  | true => simp [Nat.add_assoc, Nat.add_comm 1 i]
  | false => rfl

/-- An attempt ends the loop when it is settled or none is allowed after it. -/
theorem ends_readOnce {allowed : Nat}
    (settled : Settled pid (r.outcomeAt pid d 0) ∨ 0 = allowed) :
    Ends r pid d allowed 0 (r.readOnce pid d) where
  within := Nat.zero_le _
  before := fun i before => absurd before (Nat.not_lt_zero i)
  settled := settled
  outcome := fst_readOnce r pid d
  stat := timesOpened_stat_readOnce r pid d
  commandLine := by rw [← fst_readOnce, timesOpened_commandLine_readOnce]

/-- What ends the loop after an attempt that has to be repeated ends it from there on. -/
theorem Ends.of_transient {allowed last : Nat} {result : Outcome × Directory}
    (ends : Ends r pid (r.readOnce pid d).2 allowed last result)
    (transient : isTransient (r.readOnce pid d).1 = true) :
    Ends r pid d (allowed + 1) (last + 1) result := by
  have failed := isOk_of_isTransient transient
  have unsettled : ¬ Settled pid (r.outcomeAt pid d 0) := by
    rw [fst_readOnce] at transient
    exact isTransient_outcomeOf_iff.mp transient
  have stat := timesOpened_stat_readOnce r pid d
  have commandLine := timesOpened_commandLine_readOnce r pid d
  rw [failed] at commandLine
  refine ⟨Nat.succ_le_succ ends.within, ?_, ?_, ?_, ?_, ?_⟩
  · rintro (_ | i) before
    · exact unsettled
    · rw [← outcomeAt_readOnce failed]
      exact ends.before i (Nat.lt_of_succ_lt_succ before)
  · rw [← outcomeAt_readOnce failed]
    exact ends.settled.imp_right (congrArg (· + 1))
  · rw [← outcomeAt_readOnce failed]
    exact ends.outcome
  · rw [ends.stat, stat]
    split <;> omega
  · rw [← outcomeAt_readOnce failed, ends.commandLine, commandLine]
    rfl

/-- With `n` repetitions left, the loop goes on as reading with up to `n` repetitions does. -/
theorem exists_loop (r : Reader) (pid : Pid) (n : Nat) (a : Attempt)
    (left : r.retries.toNat = a.repeats.toNat + n) :
    ∃ last attempts, Ends r pid a.directory n last (r.readRepeatedly pid n a.directory) ∧
      Loop r pid a attempts (r.readRepeatedly pid n a.directory) ∧
      attempts.map (·.repeats.toNat) = List.range' a.repeats.toNat (last + 1) := by
  induction n generalizing a with
  | zero =>
    have spent : ¬ a.repeats < r.retries := by
      rw [UInt32.lt_iff_toNat_lt]
      omega
    exact ⟨0, [a], ends_readOnce (.inr rfl), .done (.inr spent), rfl⟩
  | succ n ih =>
    cases transient : isTransient (r.readOnce pid a.directory).1 with
    | false =>
      have once : r.readRepeatedly pid (n + 1) a.directory = r.readOnce pid a.directory := by
        simp [readRepeatedly, transient]
      have settled : Settled pid (r.outcomeAt pid a.directory 0) := by
        by_contra unsettled
        rw [fst_readOnce, outcomeAt, isTransient_outcomeOf_iff.mpr unsettled] at transient
        cases transient
      rw [once]
      exact ⟨0, [a], ends_readOnce (.inl settled), .done (.inl transient), rfl⟩
    | true =>
      have again : r.readRepeatedly pid (n + 1) a.directory =
          r.readRepeatedly pid n (r.readOnce pid a.directory).2 := by
        simp [readRepeatedly, transient]
      have below : a.repeats < r.retries := by
        rw [UInt32.lt_iff_toNat_lt]
        omega
      have counted : (a.repeats + 1).toNat = a.repeats.toNat + 1 := by
        have fits := r.retries.toNat_lt
        rw [UInt32.toNat_add, UInt32.toNat_one]
        omega
      obtain ⟨last, attempts, ends, loop, counters⟩ :=
        ih ⟨a.repeats + 1, (r.readOnce pid a.directory).2⟩ (by rw [counted]; omega)
      rw [again]
      refine ⟨last + 1, a :: attempts, ends.of_transient transient, .again transient below loop, ?_⟩
      rw [List.map_cons, counters, counted]
      rfl

/-- Reading goes on to the first attempt whose outcome is settled, or to the last one that is
allowed, and gives its outcome.  The counter of the loop goes up by one from 0 and never beyond
the number of retries.  An attempt that cannot open the stat file is settled or not by the number
of the error alone, see `AccessFault.Means`. -/
theorem readProcess_ends (r : Reader) (pid : Pid) (d : Directory) :
    (∃ last attempts, Ends r pid d r.retries.toNat last (r.readProcess pid d) ∧
      Loop r pid ⟨0, d⟩ attempts (r.readProcess pid d) ∧
      attempts.map (·.repeats.toNat) = List.range (last + 1) ∧
      ∀ a ∈ attempts, a.repeats ≤ r.retries) ∧
    ∀ i fault, r.answer pid .stat d i = .error fault →
      ∃ cause, fault.Means pid cause ∧ r.outcomeAt pid d i = .error { cause := cause } := by
  constructor
  · obtain ⟨last, attempts, ends, loop, counters⟩ :=
      exists_loop r pid r.retries.toNat ⟨0, d⟩ (Nat.zero_add _).symm
    rw [UInt32.toNat_zero, ← List.range_eq_range'] at counters
    refine ⟨last, attempts, ends, loop, counters, fun a member => ?_⟩
    have counter : a.repeats.toNat ∈ List.range (last + 1) := by
      rw [← counters]
      exact List.mem_map_of_mem member
    have within := ends.within
    rw [List.mem_range] at counter
    rw [UInt32.le_iff_toNat_le]
    omega
  · intro i fault refused
    rw [outcomeAt, refused]
    exact outcomeOf_error r pid fault _

end Reader

end ProcessAccounting.Proc
