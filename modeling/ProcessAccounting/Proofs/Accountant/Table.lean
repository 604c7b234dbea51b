import ProcessAccounting.Proofs.Accountant.Run
import ProcessAccounting.Proofs.Proc.Scripted
import ProcessAccounting.Proofs.Snapshot.Table

/-!
# The tables that an accountant publishes

A process can add lines to the table by a line break in its name or its command line, and these
can look like those of other processes.  Nothing else can, and no line of a member is lost.
-/

namespace ProcessAccounting

/-- Every published snapshot has its members under their own pids. -/
theorem Monitor.keyed_refresh (m : Monitor) (poll : Poll) : (m.refresh poll).current.Keyed := by
  show (m.nextSnapshot poll).Keyed
  unfold nextSnapshot
  split
  · exact m.baseline.keyed_refreshed _ _ _
  · exact Snapshot.keyed_empty _ _ _

namespace Accountant

variable {a : Accountant}

theorem keyed_react (keyed : a.monitor.current.Keyed) (event : Event) :
    (a.react event).monitor.current.Keyed := by
  cases event with
  | change directory =>
    cases source : a.source with
    | proc reader old =>
      rw [react_change source]
      exact keyed
    | recording player =>
      rw [react, source]
      exact keyed
  | refresh now => exact a.monitor.keyed_refresh (a.source.poll now).1

theorem keyed_run (keyed : a.monitor.current.Keyed) (events : List Event) :
    (a.run events).monitor.current.Keyed := by
  induction events generalizing a with
  | nil => exact keyed
  | cons event events ih => exact ih (keyed_react keyed event)

/-- In whatever way processes change and are polled, the members of the published snapshot are
listed in ascending order of their pids, and each has a line of the table that begins with its
pid.  The table has one more line for each line break in a name or a command line, so it is the
header and one line for each member when no such text holds a line break, and only then. -/
theorem tabular_iff_unbroken (root : Pid) (source : Source) (now : Instant)
    (events : List Event) :
    let s := ((new root source now).run events).monitor.current
    s.pids.Pairwise (· < ·) ∧
    (∃ found, s.MemberLines found ∧
      (Snapshot.headerLine :: found).Sublist (Text.lines s.table.toList)) ∧
    (Text.lines s.table.toList).length = 1 + s.size + (s.processes.map (·.breaks)).sum ∧
    (s.Tabular ↔
      ∀ p ∈ s.processes, '\n' ∉ p.name.toList ∧ '\n' ∉ p.commandLine.toList) := by
  intro s
  have keyed : s.Keyed := keyed_run (Snapshot.keyed_empty root source.units now) events
  refine ⟨s.pids_ascending, Snapshot.exists_memberLines keyed, s.length_lines_table, ?_⟩
  simp only [Snapshot.tabular_iff keyed, ProcessRecord.breaks_eq_zero_iff]

/-- A process forges the line of another one by a line break in its command line. -/
theorem not_tabular :
    ¬ ∀ (reader : Proc.Reader) (directory : Proc.Directory),
      ((new 7 (.proc reader directory) .zero).run [.refresh .zero]).monitor.current.Tabular := by
  intro tabular
  let reader : Proc.Reader :=
    { path := "/proc", pageSize := some 4096, tickRate := some 100, retries := 2 }
  let directory : Proc.Directory :=
    { entries := [
        { name := [0x37]
          stat := [.ok (Proc.childStat 7 1)]
          commandLine := [.ok [0x61, 0x0a, 0x09, 0x7c, 0x2d, 0x20, 0x38, 0x20]] }] }
  have keyed : ((new 7 (.proc reader directory) .zero).run [.refresh .zero]).monitor.current.Keyed :=
    keyed_run (Snapshot.keyed_empty 7 reader.units .zero) _
  have unbroken := (Snapshot.tabular_iff keyed).mp (tabular reader directory)
  exact absurd unbroken (by decide +kernel)

end Accountant

end ProcessAccounting
