import ProcessAccounting.Proofs.Proc.Access

/-!
# Processes are read independently of each other

What reading a process gives depends on the answers of its own files and on how often these
have been opened.  Reading another process changes neither, so each process is read as if it
were the only one: `outcomes_readEach`.
-/

namespace ProcessAccounting.Proc

/-- The files of a process are the same in both directories and have been opened as often. -/
structure Directory.SameFiles (pid : Pid) (d e : Directory) : Prop where
  responses : ∀ file, e.responses pid file = d.responses pid file
  timesOpened : ∀ file, e.timesOpened pid file = d.timesOpened pid file

namespace Directory.SameFiles

variable {pid : Pid} {d e f : Directory}

theorem refl (d : Directory) : d.SameFiles pid d := ⟨fun _ => rfl, fun _ => rfl⟩

theorem symm (same : d.SameFiles pid e) : e.SameFiles pid d :=
  ⟨fun file => (same.responses file).symm, fun file => (same.timesOpened file).symm⟩

theorem trans (same : d.SameFiles pid e) (same' : e.SameFiles pid f) : d.SameFiles pid f :=
  ⟨fun file => (same'.responses file).trans (same.responses file),
    fun file => (same'.timesOpened file).trans (same.timesOpened file)⟩

end Directory.SameFiles

/-- Both readings gave the same, and left the files of the process in the same state. -/
def SameReading {α : Type} (pid : Pid) (x y : α × Directory) : Prop :=
  x.1 = y.1 ∧ x.2.SameFiles pid y.2

theorem SameReading.exists_answer {α : Type} {pid : Pid} {x y : α × Directory}
    (same : SameReading pid x y) :
    ∃ answer d e, x = (answer, d) ∧ y = (answer, e) ∧ d.SameFiles pid e := by
  obtain ⟨answer, d⟩ := x
  obtain ⟨answer', e⟩ := y
  obtain ⟨answers, files⟩ := same
  cases answers
  exact ⟨answer, d, e, rfl, rfl, files⟩

namespace Reader

variable {r : Reader} {d e : Directory} {pid : Pid}

section Own

variable (same : d.SameFiles pid e)

include same

theorem sameReading_access (file : FileKind) :
    SameReading pid (r.access d pid file) (r.access e pid file) := by
  have answers := same.responses file
  have times := same.timesOpened file
  cases usable : r.pathIsUsable with
  | false =>
    rw [access_of_unusable usable, access_of_unusable usable]
    exact ⟨rfl, same⟩
  | true =>
    rw [access_of_usable usable, access_of_usable usable, answers, times]
    refine ⟨rfl, same.responses, fun other => ?_⟩
    have before := same.timesOpened other
    simp only [Directory.timesOpened] at before
    simp only [Directory.timesOpened, List.count_cons, before]

theorem sameReading_readOnce : SameReading pid (r.readOnce pid d) (r.readOnce pid e) := by
  obtain ⟨answer, d', e', opened, opened', after⟩ :=
    (sameReading_access (r := r) same .stat).exists_answer
  cases answer with
  | error fault =>
    simp only [readOnce, opened, opened']
    exact ⟨rfl, after⟩
  | ok contents =>
    cases interpreted : r.interpret pid contents with
    | error report =>
      simp only [readOnce, opened, opened', interpreted]
      exact ⟨rfl, after⟩
    | ok p =>
      obtain ⟨answer, d'', e'', arguments, arguments', last⟩ :=
        (sameReading_access (r := r) after .commandLine).exists_answer
      simp only [readOnce, opened, opened', interpreted, arguments, arguments']
      cases answer with
      | error fault => exact ⟨rfl, last⟩
      | ok raw => exact ⟨rfl, last⟩

/-- Reading a process depends on nothing but its own files. -/
theorem sameReading_readRepeatedly (n : Nat) :
    SameReading pid (r.readRepeatedly pid n d) (r.readRepeatedly pid n e) := by
  induction n generalizing d e with
  | zero => exact sameReading_readOnce same
  | succ n ih =>
    obtain ⟨outcome, after⟩ := sameReading_readOnce (r := r) same
    simp only [readRepeatedly, outcome]
    split
    · exact ih after
    · exact ⟨rfl, after⟩

theorem sameReading_readProcess : SameReading pid (r.readProcess pid d) (r.readProcess pid e) :=
  sameReading_readRepeatedly same r.retries.toNat

end Own

section Others

variable {pids : List Pid}

theorem sameFiles_readProcess_of_ne {other : Pid} (ne : other ≠ pid) (d : Directory) :
    d.SameFiles pid (r.readProcess other d).2 :=
  ⟨(later_readProcess d other).responses pid, fun _ => timesOpened_readProcess_of_ne ne d⟩

theorem sameFiles_readEach_of_not_mem (absent : pid ∉ pids) (d : Directory) :
    d.SameFiles pid (r.readEach pids d).2 :=
  ⟨(later_readEach pids d).responses pid,
    fun file => timesOpened_readEach_of_not_mem absent file d⟩

/-- Of several processes each is read as if it were the only one. -/
theorem outcomes_readEach (distinct : pids.Nodup) (d : Directory) :
    (r.readEach pids d).1 = pids.map fun pid => (r.readProcess pid d).1 := by
  induction pids generalizing d with
  | nil => rfl
  | cons first pids ih =>
    obtain ⟨fresh, rest⟩ := List.nodup_cons.mp distinct
    show (r.readProcess first d).1 :: (r.readEach pids (r.readProcess first d).2).1 = _
    rw [ih rest, List.map_cons]
    congr 1
    apply List.map_congr_left
    intro pid member
    have ne : first ≠ pid := fun same => fresh (same ▸ member)
    exact (sameReading_readProcess (sameFiles_readProcess_of_ne ne d)).1.symm

/-- Of several processes each is left behind as if it had been the only one. -/
theorem sameFiles_readEach (distinct : pids.Nodup) (member : pid ∈ pids) (d : Directory) :
    (r.readProcess pid d).2.SameFiles pid (r.readEach pids d).2 := by
  induction pids generalizing d with
  | nil => cases member
  | cons first pids ih =>
    obtain ⟨fresh, rest⟩ := List.nodup_cons.mp distinct
    show (r.readProcess pid d).2.SameFiles pid (r.readEach pids (r.readProcess first d).2).2
    rcases List.mem_cons.mp member with isFirst | later
    · rw [isFirst]
      exact sameFiles_readEach_of_not_mem fresh _
    · have ne : first ≠ pid := fun same => fresh (same ▸ later)
      have alone := sameReading_readProcess (r := r) (sameFiles_readProcess_of_ne (r := r) ne d)
      exact alone.2.trans (ih rest later _)

end Others

end Reader

end ProcessAccounting.Proc
