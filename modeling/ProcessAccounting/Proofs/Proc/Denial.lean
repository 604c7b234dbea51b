import ProcessAccounting.Proofs.Proc.Scan

/-!
# When a scan is denied

A scan of a directory that can be listed fails when it finds no process at all and is denied
at least one.  That is not the same as being denied all of them: processes that have ended or
make no sense are not found either, see `isUnavailable_scan_iff`.
-/

namespace ProcessAccounting.Proc

/-- The source of processes could not be read at all. -/
def IsUnavailable : Except Report (List ProcessRecord) → Prop
  | .error report => ∃ path reason, report.cause = .sourceUnavailable path reason
  | .ok _ => False

theorem found_eq_nil_iff {outcomes : List Outcome} :
    found outcomes = [] ↔ ∀ outcome ∈ outcomes, outcome.isOk = false := by
  have unread (outcome : Outcome) : outcome.toOption = none ↔ outcome.isOk = false := by
    cases outcome with
    | error report => exact iff_of_true rfl rfl
    | ok p => exact iff_of_false (Option.some_ne_none p) Bool.noConfusion
  simp only [found, List.filterMap_eq_nil_iff, unread]

namespace Reader

variable {r : Reader} {d : Directory} {pids : List Pid}

theorem isOk_of_isDenied {outcome : Outcome} (denied : isDenied outcome = true) :
    outcome.isOk = false := by
  cases outcome with
  | error report => rfl
  | ok p => cases denied

/-- Every pid has its outcome. -/
theorem length_readEach (r : Reader) (pids : List Pid) (d : Directory) :
    (r.readEach pids d).1.length = pids.length := by
  induction pids generalizing d with
  | nil => rfl
  | cons pid pids ih => exact congrArg (· + 1) (ih (r.readProcess pid d).2)

/-- The outcomes amount to a failure when nothing was found and something was denied. -/
theorem isUnavailable_summarise_iff {outcomes : List Outcome} :
    IsUnavailable (r.summarise outcomes) ↔
      (∀ outcome ∈ outcomes, outcome.isOk = false) ∧
        ∃ outcome ∈ outcomes, isDenied outcome = true := by
  rw [← found_eq_nil_iff, ← List.countP_pos_iff, found, summarise]
  split
  · next failed =>
    rw [Bool.and_eq_true, List.isEmpty_iff, decide_eq_true_eq] at failed
    exact iff_of_true ⟨_, _, rfl⟩ failed
  · next read =>
    rw [Bool.and_eq_true, List.isEmpty_iff, decide_eq_true_eq] at read
    exact iff_of_false id read

theorem scan_of_listed (listed : r.pids d = .ok pids) :
    (r.scan d).1 = r.summarise (r.readEach pids d).1 := by
  rw [scan, listed]

/-- A scan of a directory that can be listed fails exactly when no process could be read and
at least one was denied.  This means that one was listed and all were denied, exactly unless
some were denied and the others could not be read for another reason. -/
theorem isUnavailable_scan_iff (listed : r.pids d = .ok pids) :
    let outcomes := (r.readEach pids d).1
    (IsUnavailable (r.scan d).1 ↔
      (∀ outcome ∈ outcomes, outcome.isOk = false) ∧
        ∃ outcome ∈ outcomes, isDenied outcome = true) ∧
    ((IsUnavailable (r.scan d).1 ↔
        pids ≠ [] ∧ ∀ outcome ∈ outcomes, isDenied outcome = true) ↔
      (∃ outcome ∈ outcomes, outcome.isOk = true) ∨
        (∀ outcome ∈ outcomes, isDenied outcome = false) ∨
        ∀ outcome ∈ outcomes, isDenied outcome = true) := by
  intro outcomes
  have fails : IsUnavailable (r.scan d).1 ↔
      (∀ outcome ∈ outcomes, outcome.isOk = false) ∧
        ∃ outcome ∈ outcomes, isDenied outcome = true := by
    rw [scan_of_listed listed]
    exact isUnavailable_summarise_iff
  have some_listed : pids ≠ [] ↔ outcomes ≠ [] := by
    rw [← List.length_pos_iff, ← List.length_pos_iff, length_readEach]
  refine ⟨fails, ?_⟩
  rw [fails, some_listed]
  constructor
  · intro agree
    by_cases read : ∃ outcome ∈ outcomes, outcome.isOk = true
    · exact .inl read
    · by_cases denied : ∃ outcome ∈ outcomes, isDenied outcome = true
      · have none_read : ∀ outcome ∈ outcomes, outcome.isOk = false := by
          intro outcome member
          exact Bool.eq_false_iff.mpr fun ok => read ⟨outcome, member, ok⟩
        exact .inr (.inr (agree.mp ⟨none_read, denied⟩).2)
      · refine .inr (.inl fun outcome member => ?_)
        exact Bool.eq_false_iff.mpr fun ok => denied ⟨outcome, member, ok⟩
  · rintro (⟨outcome, member, read⟩ | none_denied | all_denied)
    · refine iff_of_false ?_ ?_
      · rintro ⟨none_read, -⟩
        rw [none_read outcome member] at read
        cases read
      · rintro ⟨-, all_denied⟩
        rw [isOk_of_isDenied (all_denied outcome member)] at read
        cases read
    · refine iff_of_false ?_ ?_
      · rintro ⟨-, outcome, member, denied⟩
        rw [none_denied outcome member] at denied
        cases denied
      · rintro ⟨filled, all_denied⟩
        obtain ⟨outcome, member⟩ := List.exists_mem_of_ne_nil outcomes filled
        have denied := all_denied outcome member
        rw [none_denied outcome member] at denied
        cases denied
    · constructor
      · rintro ⟨-, outcome, member, -⟩
        exact ⟨List.ne_nil_of_mem member, all_denied⟩
      · rintro ⟨filled, -⟩
        obtain ⟨outcome, member⟩ := List.exists_mem_of_ne_nil outcomes filled
        exact ⟨fun other listed => isOk_of_isDenied (all_denied other listed),
          outcome, member, all_denied outcome member⟩

theorem isUnavailable_scan_of_denied :
    let reader : Reader :=
      { path := "/proc", pageSize := some 4096, tickRate := some 100, retries := 2 }
    let directory : Directory := { entries := [
      { name := [0x37], stat := [.error Errno.permissionDenied] },
      { name := [0x38], stat := [.error Errno.notPermitted] }] }
    reader.pids directory = .ok [7, 8] ∧ IsUnavailable (reader.scan directory).1 := by
  intro reader directory
  have listed : reader.pids directory = .ok [7, 8] := by decide +kernel
  have denied : ∀ outcome ∈ (reader.readEach [7, 8] directory).1, isDenied outcome = true := by
    decide +kernel
  have agree := (isUnavailable_scan_iff listed).2.mpr (.inr (.inr denied))
  exact ⟨listed, agree.mpr ⟨by decide, denied⟩⟩

/-- A scan can fail although not all processes were denied: one of them has ended here. -/
theorem not_isUnavailable_scan_iff_all_denied :
    ¬ ∀ (r : Reader) (d : Directory) (pids : List Pid), r.pids d = .ok pids →
      (IsUnavailable (r.scan d).1 ↔
        pids ≠ [] ∧ ∀ outcome ∈ (r.readEach pids d).1, isDenied outcome = true) := by
  intro agree
  let reader : Reader :=
    { path := "/proc", pageSize := some 4096, tickRate := some 100, retries := 0 }
  let directory : Directory := { entries := [
    { name := [0x37], stat := [.error Errno.permissionDenied] }, { name := [0x38] }] }
  have listed : reader.pids directory = .ok [7, 8] := by decide +kernel
  have failed : IsUnavailable (reader.scan directory).1 := by
    rw [scan_of_listed listed, isUnavailable_summarise_iff]
    decide +kernel
  have all_denied := ((agree reader directory [7, 8] listed).mp failed).2
  revert all_denied
  decide +kernel

end Reader

end ProcessAccounting.Proc
