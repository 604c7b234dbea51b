import ProcessAccounting.Proc.Reader
import Mathlib.Data.List.Basic

/-!
# Opening files

Reading changes nothing in a proc directory except the record of what has been opened,
and what a file answers depends on how often that file has been opened before.
-/

namespace ProcessAccounting.Proc

/-- `e` is the directory `d` after some files have been opened. -/
structure Directory.Later (d e : Directory) : Prop where
  entries : e.entries = d.entries
  listingFault : e.listingFault = d.listingFault
  endFault : e.endFault = d.endFault
  opened : d.opened <:+ e.opened

namespace Directory.Later

variable {d e f : Directory}

theorem refl (d : Directory) : d.Later d := ⟨rfl, rfl, rfl, List.suffix_rfl⟩

theorem trans (h : d.Later e) (h' : e.Later f) : d.Later f :=
  ⟨h'.entries.trans h.entries, h'.listingFault.trans h.listingFault,
    h'.endFault.trans h.endFault, h.opened.trans h'.opened⟩

theorem responses (later : d.Later e) (pid : Pid) (file : FileKind) :
    e.responses pid file = d.responses pid file := by
  rw [Directory.responses, Directory.responses, later.entries]

theorem le_timesOpened (later : d.Later e) (pid : Pid) (file : FileKind) :
    d.timesOpened pid file ≤ e.timesOpened pid file :=
  later.opened.sublist.count_le (pid, file)

end Directory.Later

namespace Reader

variable {r : Reader} {d : Directory} {pid : Pid} {file : FileKind}

/-- Opening a file gives the answer that is due and remembers that it was opened. -/
theorem access_of_usable (usable : r.pathIsUsable = true) :
    r.access d pid file =
      ((Directory.response (d.responses pid file) (d.timesOpened pid file)).mapError .refused,
        { d with opened := (pid, file) :: d.opened }) := by
  rw [access, if_pos usable]
  rfl

theorem answer_of_usable (usable : r.pathIsUsable = true) (d : Directory) :
    (r.access d pid file).1 =
      (Directory.response (d.responses pid file) (d.timesOpened pid file)).mapError .refused :=
  congrArg Prod.fst (access_of_usable usable)

theorem access_of_unusable (unusable : r.pathIsUsable = false) :
    r.access d pid file = (.error .zeroInPath, d) := by
  rw [access, if_neg (by simp [unusable])]

theorem later_access (d : Directory) (pid : Pid) (file : FileKind) :
    d.Later (r.access d pid file).2 := by
  cases usable : r.pathIsUsable with
  | true =>
    rw [access_of_usable usable]
    exact ⟨rfl, rfl, rfl, List.suffix_cons _ _⟩
  | false =>
    rw [access_of_unusable usable]
    exact .refl d

theorem timesOpened_access_of_ne {pid' : Pid} {file' : FileKind}
    (other : (pid, file) ≠ (pid', file')) (d : Directory) :
    (r.access d pid file).2.timesOpened pid' file' = d.timesOpened pid' file' := by
  cases usable : r.pathIsUsable with
  | true =>
    rw [access_of_usable usable]
    exact List.count_cons_of_ne other
  | false => rw [access_of_unusable usable]

/-- Opening one file does not change what another one answers. -/
theorem access_access_of_ne {pid' : Pid} {file' : FileKind}
    (other : (pid, file) ≠ (pid', file')) :
    (r.access (r.access d pid file).2 pid' file').1 = (r.access d pid' file').1 := by
  cases usable : r.pathIsUsable with
  | false => simp only [access_of_unusable usable]
  | true =>
    have times := timesOpened_access_of_ne (r := r) other d
    have answers := (later_access (r := r) d pid file).responses pid' file'
    rw [answer_of_usable usable, answer_of_usable usable, times, answers]

/-- An attempt opens the stat file, and the command line as well when it succeeds. -/
theorem readOnce_cases (r : Reader) (pid : Pid) (d : Directory) :
    (∃ report, r.readOnce pid d = (.error report, (r.access d pid .stat).2)) ∨
    ∃ p, r.readOnce pid d =
      (.ok p, (r.access (r.access d pid .stat).2 pid .commandLine).2) := by
  unfold readOnce
  cases opened : r.access d pid .stat with
  | mk answer e =>
    cases answer with
    | error fault => exact .inl ⟨_, rfl⟩
    | ok contents =>
      cases interpreted : r.interpret pid contents with
      | error report =>
        simp only [interpreted]
        exact .inl ⟨report, rfl⟩
      | ok p =>
        simp only [interpreted]
        cases r.access e pid .commandLine with
        | mk answer f => cases answer <;> exact .inr ⟨_, rfl⟩

section Steps

/-! What every opening does to a directory, and what carries over from one opening to the
next, reading as a whole does too. -/

variable {R : Directory → Directory → Prop}

theorem readOnce_of_access (trans : ∀ d e f, R d e → R e f → R d f)
    (opens : ∀ d file, R d (r.access d pid file).2) (d : Directory) :
    R d (r.readOnce pid d).2 := by
  have first := opens d .stat
  rcases r.readOnce_cases pid d with ⟨report, failed⟩ | ⟨p, read⟩
  · rw [failed]
    exact first
  · rw [read]
    exact trans d _ _ first (opens _ .commandLine)

theorem readRepeatedly_of_access (trans : ∀ d e f, R d e → R e f → R d f)
    (opens : ∀ d file, R d (r.access d pid file).2) (n : Nat) (d : Directory) :
    R d (r.readRepeatedly pid n d).2 := by
  induction n generalizing d with
  | zero => exact readOnce_of_access trans opens d
  | succ n ih =>
    have first := readOnce_of_access trans opens d
    unfold readRepeatedly
    cases once : r.readOnce pid d with
    | mk outcome e =>
      rw [once] at first
      simp only
      split
      · exact trans d e _ first (ih e)
      · exact first

theorem readEach_of_access (refl : ∀ d, R d d) (trans : ∀ d e f, R d e → R e f → R d f)
    (pids : List Pid) (opens : ∀ pid ∈ pids, ∀ d file, R d (r.access d pid file).2)
    (d : Directory) : R d (r.readEach pids d).2 := by
  induction pids generalizing d with
  | nil => exact refl d
  | cons pid pids ih =>
    have first : R d (r.readProcess pid d).2 :=
      readRepeatedly_of_access trans (opens pid List.mem_cons_self) r.retries.toNat d
    have rest := ih (fun q member => opens q (List.mem_cons_of_mem pid member))
      (r.readProcess pid d).2
    exact trans d _ _ first rest

end Steps

theorem later_readOnce (d : Directory) (pid : Pid) : d.Later (r.readOnce pid d).2 :=
  readOnce_of_access (fun _ _ _ h h' => h.trans h') (fun e file => later_access e pid file) d

theorem later_readProcess (d : Directory) (pid : Pid) : d.Later (r.readProcess pid d).2 :=
  readRepeatedly_of_access (fun _ _ _ h h' => h.trans h')
    (fun e file => later_access e pid file) r.retries.toNat d

theorem later_readEach (pids : List Pid) (d : Directory) : d.Later (r.readEach pids d).2 :=
  readEach_of_access Directory.Later.refl (fun _ _ _ h h' => h.trans h') pids
    (fun pid _ e file => later_access e pid file) d

theorem later_scan (d : Directory) : d.Later (r.scan d).2 := by
  unfold scan
  split
  · exact .refl d
  · exact later_readEach _ d

/-- Reading some processes opens no file of another one. -/
theorem timesOpened_readEach_of_not_mem {pids : List Pid} (absent : pid ∉ pids)
    (file : FileKind) (d : Directory) :
    (r.readEach pids d).2.timesOpened pid file = d.timesOpened pid file := by
  let Same (d e : Directory) : Prop := e.timesOpened pid file = d.timesOpened pid file
  have opens : ∀ q ∈ pids, ∀ d file', Same d (r.access d q file').2 := by
    intro q member d file'
    refine timesOpened_access_of_ne ?_ d
    rintro same
    cases same
    exact absent member
  exact readEach_of_access (R := Same) (fun _ => rfl) (fun _ _ _ h h' => h'.trans h) pids opens d

/-- Reading one process opens no file of another one. -/
theorem timesOpened_readProcess_of_ne {other : Pid} (ne : other ≠ pid) (d : Directory) :
    (r.readProcess other d).2.timesOpened pid file = d.timesOpened pid file := by
  have absent : pid ∉ [other] := by simpa using ne.symm
  exact timesOpened_readEach_of_not_mem absent file d

end Reader

end ProcessAccounting.Proc
