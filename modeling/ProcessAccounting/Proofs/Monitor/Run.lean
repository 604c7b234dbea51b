import ProcessAccounting.Monitor
import ProcessAccounting.Proofs.Subtree
import Mathlib.Data.List.Induction

/-!
# Runs of a monitor

A run feeds a monitor with one poll after the other, in whatever order they succeed and
fail.  What a run leaves behind depends on its successful polls alone: `baseline_run`
says so for the snapshot from which the next ages are taken.
-/

namespace ProcessAccounting

/-- The records of the successful polls, in the order of the polls. -/
def successes (polls : List Poll) : List (List ProcessRecord) :=
  polls.filterMap (·.outcome.toOption)

theorem successes_append (before after : List Poll) :
    successes (before ++ after) = successes before ++ successes after :=
  List.filterMap_append

theorem successes_singleton_of_ok {poll : Poll} {records : List ProcessRecord}
    (ok : poll.outcome = .ok records) : successes [poll] = [records] := by
  simp [successes, ok, Except.toOption]

theorem successes_singleton_of_error {poll : Poll} {report : Report}
    (failure : poll.outcome = .error report) : successes [poll] = [] := by
  simp [successes, failure, Except.toOption]

theorem exists_report_of_failed {poll : Poll} (failed : poll.outcome.isOk = false) :
    ∃ report, poll.outcome = .error report := by
  cases outcome : poll.outcome with
  | ok records => rw [outcome] at failed; cases failed
  | error report => exact ⟨report, rfl⟩

/-- The members that a monitor keeps after successful polls: those of the last subtree,
with ages that have been carried from each subtree to the next. -/
def agedMembers (root : Pid) (history : List (List ProcessRecord)) : Members :=
  history.foldl (fun members records => carryAges members (subtree root records)) ∅

theorem agedMembers_append (root : Pid) (history : List (List ProcessRecord))
    (records : List ProcessRecord) :
    agedMembers root (history ++ [records]) =
      carryAges (agedMembers root history) (subtree root records) := by
  rw [agedMembers, List.foldl_append]
  rfl

/-- A member is kept under its own pid, and only its age differs from the record read. -/
theorem of_getElem?_agedMembers_append {root : Pid} {history : List (List ProcessRecord)}
    {records : List ProcessRecord} {pid : Pid} {p : ProcessRecord}
    (found : (agedMembers root (history ++ [records]))[pid]? = some p) :
    p.pid = pid ∧ ∃ q ∈ records, { q with age := p.age } = p := by
  rw [agedMembers_append, getElem?_carryAges, Option.map_eq_some_iff] at found
  obtain ⟨q, inSubtree, rfl⟩ := found
  obtain ⟨listed, same⟩ := of_getElem?_subtree inSubtree
  exact ⟨same, q, listed, rfl⟩

theorem pid_of_getElem?_agedMembers {root : Pid} {history : List (List ProcessRecord)}
    {pid : Pid} {p : ProcessRecord} (found : (agedMembers root history)[pid]? = some p) :
    p.pid = pid := by
  cases history using List.reverseRecOn with
  | nil =>
    rw [agedMembers, List.foldl_nil, Std.ExtTreeMap.getElem?_empty] at found
    cases found
  | append_singleton history records => exact (of_getElem?_agedMembers_append found).1

namespace Monitor

/-- The monitor after a sequence of polls. -/
def run (m : Monitor) (polls : List Poll) : Monitor := polls.foldl refresh m

theorem run_append (m : Monitor) (before after : List Poll) :
    m.run (before ++ after) = (m.run before).run after :=
  List.foldl_append

theorem run_concat (m : Monitor) (polls : List Poll) (poll : Poll) :
    m.run (polls ++ [poll]) = (m.run polls).refresh poll :=
  run_append m polls [poll]

/-- A successful poll publishes the snapshot that follows from the baseline, and makes
it the new baseline. -/
theorem refresh_of_ok (m : Monitor) {poll : Poll} {records : List ProcessRecord}
    (ok : poll.outcome = .ok records) :
    (m.refresh poll).current = m.baseline.refreshed records poll.units poll.takenAt ∧
    (m.refresh poll).baseline = (m.refresh poll).current := by
  simp [refresh, nextSnapshot, ok, Except.isOk, Except.toBool]

/-- A failed poll publishes an empty snapshot and leaves the baseline alone. -/
theorem refresh_of_error (m : Monitor) {poll : Poll} {report : Report}
    (failure : poll.outcome = .error report) :
    (m.refresh poll).current = .empty m.root poll.units poll.takenAt ∧
    (m.refresh poll).baseline = m.baseline := by
  simp [refresh, nextSnapshot, failure, Except.isOk, Except.toBool]

theorem baseline_root_refresh {m : Monitor} {root : Pid} (poll : Poll)
    (baseline_root : m.baseline.root = root) : (m.refresh poll).baseline.root = root := by
  cases outcome : poll.outcome with
  | error report =>
    rw [(m.refresh_of_error outcome).2]
    exact baseline_root
  | ok records =>
    rw [(m.refresh_of_ok outcome).2, (m.refresh_of_ok outcome).1]
    exact baseline_root

theorem root_run (m : Monitor) (polls : List Poll) : (m.run polls).root = m.root := by
  induction polls generalizing m with
  | nil => rfl
  | cons poll polls ih => exact ih (m.refresh poll)

/-- The refreshes are counted in a word. -/
theorem refreshes_run (m : Monitor) (polls : List Poll) :
    (m.run polls).refreshes = m.refreshes + .ofNat polls.length := by
  induction polls generalizing m with
  | nil => exact (UInt64.add_zero m.refreshes).symm
  | cons poll polls ih =>
    have step : (m.run (poll :: polls)).refreshes = m.refreshes + 1 + .ofNat polls.length :=
      ih (m.refresh poll)
    rw [step, List.length_cons, UInt64.ofNat_add, UInt64.add_assoc, UInt64.add_comm 1]
    rfl

/-- The counter of a monitor stands at 0 when it is new and whenever it has come round. -/
theorem refreshes_run_eq_zero_iff {root : Pid} {units : Units} {now : Instant}
    {polls : List Poll} :
    ((new root units now).run polls).refreshes = 0 ↔ UInt64.size ∣ polls.length := by
  have start : (new root units now).refreshes = 0 := rfl
  rw [refreshes_run, start, UInt64.zero_add, ← UInt64.toNat_inj, UInt64.toNat_ofNat',
    UInt64.toNat_zero, Nat.dvd_iff_mod_eq_zero]

/-- After a poll that the counter does not take for the first, the snapshot published before it
is the previous one, whether it came from a success or from a failure. -/
theorem previous_run_concat (root : Pid) (units : Units) (now : Instant) {polls : List Poll}
    (poll : Poll) (counted : ¬ UInt64.size ∣ polls.length) :
    ((new root units now).run (polls ++ [poll])).previous =
      some ((new root units now).run polls).current := by
  rw [run_concat]
  exact if_neg (fun first => counted (refreshes_run_eq_zero_iff.mp first))

/-- A run leaves the members of its successful polls behind, whatever failed between. -/
theorem baseline_run (root : Pid) (units : Units) (now : Instant) (polls : List Poll) :
    ((new root units now).run polls).baseline.root = root ∧
    ((new root units now).run polls).baseline.members = agedMembers root (successes polls) := by
  induction polls using List.reverseRecOn with
  | nil => exact ⟨rfl, rfl⟩
  | append_singleton polls poll ih =>
    rw [run_concat, successes_append]
    cases outcome : poll.outcome with
    | ok records =>
      obtain ⟨published, kept⟩ := refresh_of_ok ((new root units now).run polls) outcome
      rw [kept, published, successes_singleton_of_ok outcome, agedMembers_append,
        Snapshot.refreshed, ih.1, ih.2]
      exact ⟨rfl, rfl⟩
    | error report =>
      rw [(refresh_of_error _ outcome).2, successes_singleton_of_error outcome, List.append_nil]
      exact ih

/-- The members that a successful poll publishes. -/
theorem members_run_of_ok (root : Pid) (units : Units) (now : Instant) (polls : List Poll)
    {poll : Poll} {records : List ProcessRecord} (ok : poll.outcome = .ok records) :
    ((new root units now).run (polls ++ [poll])).current.members =
      agedMembers root (successes (polls ++ [poll])) := by
  rw [← (baseline_run root units now (polls ++ [poll])).2, run_concat,
    (refresh_of_ok _ ok).2]

end Monitor

end ProcessAccounting
