import ProcessAccounting.Proofs.Members
import ProcessAccounting.Proofs.Monitor.Run

/-!
# Processor usage over a run

Usage is measured against the snapshot published before, and a failed poll publishes an
empty one.  A process that lives through failed polls then counts with all its ticks: see
`contribution_le_increase_iff`.
-/

namespace ProcessAccounting

/-- No process has fewer ticks in a later reading than in an earlier one. -/
def TicksNeverDecrease (history : List (List ProcessRecord)) : Prop :=
  history.Pairwise fun earlier later =>
    ∀ p ∈ earlier, ∀ q ∈ later, p.IsSame q → p.cpuTicks ≤ q.cpuTicks

instance (history : List (List ProcessRecord)) : Decidable (TicksNeverDecrease history) :=
  inferInstanceAs (Decidable (history.Pairwise _))

namespace Snapshot

theorem ticksOf_of_getElem? {earlier : Snapshot} {old p : ProcessRecord}
    (found : earlier.members[p.pid]? = some old) (same : old.IsSame p) :
    earlier.ticksOf p = Saturating.sub p.cpuTicks old.cpuTicks := by
  rw [ticksOf, get?, found]
  exact if_pos same

theorem ticksOf_of_empty (root : Pid) (units : Units) (takenAt : Instant) (p : ProcessRecord) :
    (empty root units takenAt).ticksOf p = p.cpuTicks := by
  have absent : (empty root units takenAt).get? p.pid = none := Std.ExtTreeMap.getElem?_empty
  rw [ticksOf, absent]

end Snapshot

namespace Monitor

variable {root : Pid} {units : Units} {now : Instant}

/-- The processes of a published snapshot are records of its poll, up to their ages. -/
theorem exists_of_mem_processes (before : List Poll) {poll : Poll}
    {records : List ProcessRecord} (ok : poll.outcome = .ok records) {p : ProcessRecord}
    (member : p ∈ ((new root units now).run (before ++ [poll])).current.processes) :
    ((new root units now).run (before ++ [poll])).current.members[p.pid]? = some p ∧
      ∃ q ∈ records, q.IsSame p ∧ q.cpuTicks = p.cpuTicks := by
  obtain ⟨key, found⟩ := Members.mem_values_iff.mp member
  have kept := found
  rw [members_run_of_ok root units now before ok, successes_append,
    successes_singleton_of_ok ok] at kept
  obtain ⟨rfl, q, listed, aged⟩ := of_getElem?_agedMembers_append kept
  have ticks := congrArg ProcessRecord.cpuTicks aged
  exact ⟨found, q, listed, ⟨congrArg (·.pid) aged, congrArg (·.startTime) aged⟩, ticks⟩

/-- After failed polls, the snapshot published last is empty. -/
theorem current_run_of_failures (root : Pid) (units : Units) (now : Instant)
    (before : List Poll) {failures : List Poll}
    (failed : ∀ poll ∈ failures, poll.outcome.isOk = false) (some_failed : failures ≠ []) :
    ∃ units' takenAt, ((new root units now).run (before ++ failures)).current =
      .empty root units' takenAt := by
  cases failures using List.reverseRecOn with
  | nil => exact absurd rfl some_failed
  | append_singleton failures last =>
    obtain ⟨report, failure⟩ := exists_report_of_failed (failed last (by simp))
    rw [← List.append_assoc, run_concat, (refresh_of_error _ failure).1, root_run]
    exact ⟨_, _, rfl⟩

/-- What a process counts for that was also in the snapshot of the last successful poll. -/
theorem ticksOf_survivor (before : List Poll) {good : Poll} {failures : List Poll}
    {seen : List ProcessRecord} (goodOk : good.outcome = .ok seen)
    (failed : ∀ failure ∈ failures, failure.outcome.isOk = false) {old p : ProcessRecord}
    (wasMember : old ∈ ((new root units now).run (before ++ [good])).current.processes)
    (same : old.IsSame p) :
    ((new root units now).run (before ++ [good] ++ failures)).current.ticksOf p =
      if failures = [] then Saturating.sub p.cpuTicks old.cpuTicks else p.cpuTicks := by
  split
  · next none_failed =>
    subst none_failed
    obtain ⟨found, -⟩ := exists_of_mem_processes before goodOk wasMember
    rw [same.1] at found
    rw [List.append_nil]
    exact Snapshot.ticksOf_of_getElem? found same
  · next some_failed =>
    obtain ⟨units', takenAt, published⟩ :=
      current_run_of_failures root units now (before ++ [good]) failed some_failed
    rw [published]
    exact Snapshot.ticksOf_of_empty root units' takenAt p

/-- Ticks that never decrease do not decrease from one snapshot to the next either. -/
theorem cpuTicks_le_of_mem_processes (before after : List Poll) {good poll : Poll}
    {seen records : List ProcessRecord} (goodOk : good.outcome = .ok seen)
    (ok : poll.outcome = .ok records)
    (monotone : TicksNeverDecrease (successes (before ++ [good] ++ after ++ [poll])))
    {old p : ProcessRecord}
    (wasMember : old ∈ ((new root units now).run (before ++ [good])).current.processes)
    (member : p ∈ ((new root units now).run
      (before ++ [good] ++ after ++ [poll])).current.processes)
    (same : old.IsSame p) : old.cpuTicks ≤ p.cpuTicks := by
  obtain ⟨-, q, inSeen, sameOld, ticksOld⟩ := exists_of_mem_processes before goodOk wasMember
  obtain ⟨-, q', inRecords, sameNew, ticksNew⟩ := exists_of_mem_processes _ ok member
  rw [← ticksOld, ← ticksNew]
  rw [successes_append, successes_append, successes_append, successes_singleton_of_ok goodOk,
    successes_singleton_of_ok ok] at monotone
  have ordered := (List.pairwise_append.mp monotone).2.2
  exact ordered seen (by simp) records (by simp) q inSeen q' inRecords
    ((sameOld.trans same).trans sameNew.symm)

/-- A process that was a member at the last successful poll counts at this one with at most
its increase since then exactly when no poll has failed in between or it had no ticks yet:
after a failure it counts with all its ticks.  The counter of the polls must not have come round
to 0, since the monitor would then take this poll for its first. -/
theorem contribution_le_increase_iff (root : Pid) (units : Units) (now : Instant)
    (before failures : List Poll) {good poll : Poll} {seen records : List ProcessRecord}
    (goodOk : good.outcome = .ok seen)
    (failed : ∀ failure ∈ failures, failure.outcome.isOk = false)
    (ok : poll.outcome = .ok records)
    (monotone : TicksNeverDecrease (successes (before ++ [good] ++ failures ++ [poll])))
    (counted : ¬ UInt64.size ∣ (before ++ [good] ++ failures).length) :
    let reference := ((new root units now).run (before ++ [good])).current
    let m := (new root units now).run (before ++ [good] ++ failures ++ [poll])
    ∃ earlier, m.previous = some earlier ∧ m.usage? = m.current.usageSince? earlier ∧
      ∀ old ∈ reference.processes, ∀ p ∈ m.current.processes, old.IsSame p →
        earlier.ticksOf p =
          (if failures = [] then Saturating.sub p.cpuTicks old.cpuTicks else p.cpuTicks) ∧
        ((earlier.ticksOf p).toNat ≤ p.cpuTicks.toNat - old.cpuTicks.toNat ↔
          failures = [] ∨ old.cpuTicks = 0) := by
  intro reference m
  have previous : m.previous =
      some ((new root units now).run (before ++ [good] ++ failures)).current :=
    previous_run_concat root units now poll counted
  refine ⟨_, previous, ?_, ?_⟩
  · rw [usage?, previous]
    rfl
  · intro old wasMember p member same
    have counts := ticksOf_survivor before goodOk failed wasMember same
    have grows : old.cpuTicks.toNat ≤ p.cpuTicks.toNat := UInt64.le_iff_toNat_le.mp
      (cpuTicks_le_of_mem_processes before failures goodOk ok monotone wasMember member same)
    refine ⟨counts, ?_⟩
    rw [counts]
    split
    · next none_failed =>
      rw [Saturating.toNat_sub]
      exact ⟨fun _ => .inl none_failed, fun _ => Nat.le_refl _⟩
    · next some_failed =>
      constructor
      · intro le
        refine .inr (UInt64.toNat_inj.mp ?_)
        rw [UInt64.toNat_zero]
        omega
      · rintro (none_failed | noTicks)
        · exact absurd none_failed some_failed
        · rw [noTicks, UInt64.toNat_zero]
          exact Nat.le_refl _

theorem contribution_after_failure :
    let units : Units := { capabilities := {}, tickRate := some 100 }
    let poll (ticks : UInt64) (seconds : UInt64) : Poll := {
      units, takenAt := .ofSeconds seconds
      outcome := .ok [{ pid := 7, startTime := some 5, userTicks := ticks }] }
    let failure : Poll := {
      units, takenAt := .ofSeconds 2
      outcome := .error { cause := .sourceUnavailable "/proc" "" } }
    let m := (new 7 units .zero).run ([] ++ [poll 400 1] ++ [failure] ++ [poll 450 3])
    ∃ earlier p, m.previous = some earlier ∧ m.current.processes = [p] ∧
      earlier.ticksOf p = 450 ∧
      ¬ (earlier.ticksOf p).toNat ≤ p.cpuTicks.toNat - 400 := by
  intro units poll failure m
  have failed : ∀ f ∈ [failure], f.outcome.isOk = false := by
    intro f member
    rw [List.mem_singleton.mp member]
    rfl
  have seen : (poll 400 1).outcome =
      .ok [{ pid := 7, startTime := some 5, userTicks := 400 }] := rfl
  have read : (poll 450 3).outcome =
      .ok [{ pid := 7, startTime := some 5, userTicks := 450 }] := rfl
  obtain ⟨earlier, previous, -, counts⟩ :=
    contribution_le_increase_iff 7 units .zero [] [failure] seen failed read (by decide) (by decide)
  let old : ProcessRecord := { pid := 7, startTime := some 5, userTicks := 400 }
  let p : ProcessRecord := { pid := 7, startTime := some 5, userTicks := 450, age := 1 }
  have was : ((new 7 units .zero).run ([] ++ [poll 400 1])).current.processes = [old] := by
    decide +kernel
  have now : m.current.processes = [p] := by decide +kernel
  have wasMember : old ∈ ((new 7 units .zero).run ([] ++ [poll 400 1])).current.processes := by
    rw [was]
    exact List.mem_singleton_self old
  have member : p ∈ m.current.processes := by
    rw [now]
    exact List.mem_singleton_self p
  obtain ⟨all, bound⟩ := counts old wasMember p member ⟨rfl, rfl⟩
  refine ⟨earlier, p, previous, now, all, ?_⟩
  intro le
  exact absurd (bound.mp le) (by decide)

/-- A failed poll can make a process count with more than its increase. -/
theorem not_contribution_le_increase :
    ¬ ∀ (root : Pid) (units : Units) (now : Instant) (before failures : List Poll)
      (good poll : Poll), good.outcome.isOk = true →
      (∀ failure ∈ failures, failure.outcome.isOk = false) → poll.outcome.isOk = true →
      let polls := before ++ [good] ++ failures ++ [poll]
      (∀ records ∈ successes polls, (records.map (·.pid)).Nodup) →
      TicksNeverDecrease (successes polls) →
      let reference := ((new root units now).run (before ++ [good])).current
      let m := (new root units now).run polls
      ∀ earlier ∈ m.previous, ∀ old ∈ reference.processes, ∀ p ∈ m.current.processes,
        old.IsSame p →
        (earlier.ticksOf p).toNat ≤ p.cpuTicks.toNat - old.cpuTicks.toNat := by
  intro bounded
  let units : Units := { capabilities := {}, tickRate := some 100 }
  let success : Poll := {
    units, takenAt := .ofSeconds 1
    outcome := .ok [{ pid := 7, startTime := some 5, userTicks := 400 }] }
  let failure : Poll := {
    units, takenAt := .ofSeconds 2
    outcome := .error { cause := .sourceUnavailable "/proc" "" } }
  have contributes := bounded 7 units .zero [] [failure] success success rfl (by decide +kernel) rfl
    (by decide +kernel) (by decide +kernel)
  revert contributes
  decide +kernel

end Monitor

end ProcessAccounting
