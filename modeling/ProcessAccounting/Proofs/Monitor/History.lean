import ProcessAccounting.Proofs.Duration
import ProcessAccounting.Proofs.Members
import ProcessAccounting.Proofs.Monitor.Run

/-!
# What a monitor remembers

A run publishes one snapshot for each of its polls.  Of these the monitor keeps the last one,
the one before it and the last one that a successful poll has published: see `Remembers`.
-/

namespace ProcessAccounting

namespace Snapshot

/-- The snapshot has no members, so that there is nothing to be counted. -/
structure Vacant (s : Snapshot) : Prop where
  members : s.members = ∅
  virtualMemory : ∀ threshold, s.virtualMemory threshold = 0
  residentMemory : ∀ threshold, s.residentMemory threshold = 0
  cpuTime : s.cpuTime = .zero
  rootLeadsGroup : s.rootLeadsGroup = false

@[simp] theorem processes_empty (root : Pid) (units : Units) (takenAt : Instant) :
    (empty root units takenAt).processes = [] := by
  rw [processes, Members.values_eq]
  simp [empty]

theorem vacant_empty (root : Pid) (units : Units) (takenAt : Instant) :
    (empty root units takenAt).Vacant where
  members := rfl
  virtualMemory := by
    intro threshold
    simp [virtualMemory, counted, Saturating.sum]
  residentMemory := by
    intro threshold
    simp [residentMemory, counted, Saturating.sum]
  cpuTime := by
    have noTicks : (empty root units takenAt).cpuTicks = 0 := by
      simp [cpuTicks, Saturating.sum]
    rw [cpuTime, noTicks, ticksToTime]
    cases (empty root units takenAt).units.tickRate with
    | none => simp
    | some rate => simp [Duration.ofTicks?_zero]
  rootLeadsGroup := by
    simp [rootLeadsGroup, get?, empty]

end Snapshot

namespace Monitor

/-- The snapshots that a run publishes, in the order of its polls. -/
def published (m : Monitor) : List Poll → List Snapshot
  | [] => []
  | poll :: polls => (m.refresh poll).current :: (m.refresh poll).published polls

theorem length_published (m : Monitor) (polls : List Poll) :
    (m.published polls).length = polls.length := by
  induction polls generalizing m with
  | nil => rfl
  | cons poll polls ih => simp [published, ih]

theorem published_append (m : Monitor) (before after : List Poll) :
    m.published (before ++ after) = m.published before ++ (m.run before).published after := by
  induction before generalizing m with
  | nil => rfl
  | cons poll before ih =>
    show _ :: (m.refresh poll).published (before ++ after) = _
    rw [ih]
    rfl

/-- The snapshot that belongs to the last successful one of the polls, or `placeholder` when
none was successful. -/
def lastSuccess (placeholder : Snapshot) (polls : List Poll) (snapshots : List Snapshot) :
    Snapshot :=
  match ((polls.zip snapshots).filter (·.1.outcome.isOk)).getLast? with
  | some (_, s) => s
  | none => placeholder

section lastSuccess

variable {placeholder s : Snapshot} {polls : List Poll} {snapshots : List Snapshot} {poll : Poll}
  (paired : polls.length = snapshots.length)

include paired

theorem lastSuccess_append_of_ok {records : List ProcessRecord}
    (ok : poll.outcome = .ok records) :
    lastSuccess placeholder (polls ++ [poll]) (snapshots ++ [s]) = s := by
  simp [lastSuccess, List.zip_append paired, ok, Except.isOk, Except.toBool]

theorem lastSuccess_append_of_error {report : Report} (failure : poll.outcome = .error report) :
    lastSuccess placeholder (polls ++ [poll]) (snapshots ++ [s]) =
      lastSuccess placeholder polls snapshots := by
  simp [lastSuccess, List.zip_append paired, failure, Except.isOk, Except.toBool]

end lastSuccess

/-- The monitor is in the state in which a run over the polls has left it, of which the
snapshots are those that it has published and `placeholder` is the one it has begun with. -/
structure Remembers (placeholder : Snapshot) (polls : List Poll) (snapshots : List Snapshot)
    (m : Monitor) : Prop where
  root : m.root = placeholder.root
  refreshes : m.refreshes.toNat = polls.length
  /-- The last snapshot is the current one. -/
  current : m.current = snapshots.getLast?.getD placeholder
  /-- The one before it, which takes two polls, is the previous one; the placeholder never is. -/
  previous : m.previous = snapshots.dropLast.getLast?
  baseline : m.baseline = lastSuccess placeholder polls snapshots

variable {placeholder : Snapshot} {polls : List Poll} {snapshots : List Snapshot} {m : Monitor}

theorem remembers_new (root : Pid) (units : Units) (now : Instant) :
    Remembers (.empty root units now) [] [] (new root units now) :=
  ⟨rfl, rfl, rfl, rfl, rfl⟩

/-- One more poll is remembered together with the snapshot that it publishes, as long as the
counter has room for it. -/
theorem Remembers.refresh (remembers : Remembers placeholder polls snapshots m)
    (paired : polls.length = snapshots.length) (poll : Poll)
    (few : (polls ++ [poll]).length < UInt64.size) :
    Remembers placeholder (polls ++ [poll]) (snapshots ++ [(m.refresh poll).current])
      (m.refresh poll) where
  root := remembers.root
  refreshes := by
    show (m.refreshes + 1).toNat = _
    rw [List.length_append, List.length_singleton] at few ⊢
    rw [UInt64.toNat_add, remembers.refreshes]
    exact Nat.mod_eq_of_lt few
  current := by simp
  previous := by
    have before : (m.refresh poll).previous =
        if m.refreshes = 0 then m.previous else some m.current := rfl
    have counted : m.refreshes = 0 ↔ polls.length = 0 := by
      rw [← remembers.refreshes, ← UInt64.toNat_inj, UInt64.toNat_zero]
    rw [before, List.dropLast_concat, remembers.previous, remembers.current]
    simp only [counted]
    by_cases first : polls.length = 0
    · have none_published : snapshots = [] := List.length_eq_zero_iff.mp (paired ▸ first)
      simp [first, none_published]
    · have some_published : snapshots ≠ [] := by
        intro none_published
        apply first
        rw [paired, none_published]
        rfl
      rw [if_neg first, List.getLast?_eq_some_getLast some_published]
      rfl
  baseline := by
    cases outcome : poll.outcome with
    | ok records =>
      rw [lastSuccess_append_of_ok paired outcome]
      exact (refresh_of_ok m outcome).2
    | error report =>
      rw [lastSuccess_append_of_error paired outcome, (refresh_of_error m outcome).2]
      exact remembers.baseline

theorem remembers_run (root : Pid) (units : Units) (now : Instant) {polls : List Poll}
    (few : polls.length < UInt64.size) :
    Remembers (.empty root units now) polls ((new root units now).published polls)
      ((new root units now).run polls) := by
  induction polls using List.reverseRecOn with
  | nil => exact remembers_new root units now
  | append_singleton polls poll ih =>
    have fewer : polls.length < UInt64.size := by
      rw [List.length_append] at few
      omega
    rw [run_concat, published_append]
    exact (ih fewer).refresh (length_published _ polls).symm poll few

/-- What a refresh publishes belongs to the monitor's root and to the poll. -/
theorem current_refresh (baseline_root : m.baseline.root = m.root) (poll : Poll) :
    (m.refresh poll).current.root = m.root ∧ (m.refresh poll).current.units = poll.units ∧
    (m.refresh poll).current.takenAt = poll.takenAt := by
  cases outcome : poll.outcome with
  | ok records =>
    rw [(refresh_of_ok m outcome).1]
    exact ⟨baseline_root, rfl, rfl⟩
  | error report =>
    rw [(refresh_of_error m outcome).1]
    exact ⟨rfl, rfl, rfl⟩

/-- A failed poll is warned about once and changes neither the baseline nor anything else
than that a snapshot without members is published. -/
theorem refresh_of_failure {poll : Poll} {report : Report}
    (failure : poll.outcome = .error report) :
    (m.refresh poll).baseline = m.baseline ∧ (m.refresh poll).current.Vacant ∧
    warnings poll = [.pollFailed report] := by
  obtain ⟨published, kept⟩ := refresh_of_error m failure
  refine ⟨kept, ?_, ?_⟩
  · rw [published]
    exact Snapshot.vacant_empty m.root poll.units poll.takenAt
  · rw [warnings, failure]

/-- After any sequence of polls that can be counted, the monitor has published one snapshot for
each, of its root and with the units of the poll, and remembers them as `Remembers` says.  A
failed poll leaves the baseline alone, publishes a vacant snapshot and gives one warning; a
successful one gives none. -/
theorem run_remembers (root : Pid) (units : Units) (now : Instant) (polls : List Poll)
    (few : polls.length < UInt64.size) :
    let start := new root units now
    let snapshots := start.published polls
    Remembers (.empty root units now) polls snapshots (start.run polls) ∧
    (polls.length < 2 → (start.run polls).usage? = none) ∧
    snapshots.length = polls.length ∧
    ∀ before poll after, polls = before ++ poll :: after →
      ∃ s, snapshots[before.length]? = some s ∧ s = (start.run (before ++ [poll])).current ∧
        s.root = root ∧ s.units = poll.units ∧ s.takenAt = poll.takenAt ∧
        match poll.outcome with
        | .ok _ => warnings poll = []
        | .error report =>
          (start.run (before ++ [poll])).baseline = (start.run before).baseline ∧
          s.Vacant ∧ warnings poll = [.pollFailed report] := by
  intro start snapshots
  have remembers : Remembers (.empty root units now) polls snapshots (start.run polls) :=
    remembers_run root units now few
  have length : snapshots.length = polls.length := length_published start polls
  refine ⟨remembers, ?_, length, ?_⟩
  · intro few
    have none_previous : snapshots.dropLast = [] := by
      apply List.length_eq_zero_iff.mp
      rw [List.length_dropLast]
      omega
    rw [usage?, remembers.previous, none_previous]
    rfl
  · intro before poll after split
    have run : start.run (before ++ [poll]) = (start.run before).refresh poll :=
      run_concat start before poll
    have position : snapshots[before.length]? = some ((start.run before).refresh poll).current := by
      show (start.published polls)[before.length]? = _
      have behind : (start.published before).length ≤ before.length :=
        Nat.le_of_eq (length_published start before)
      rw [split, published_append, List.getElem?_append_right behind, length_published,
        Nat.sub_self]
      rfl
    have same_root : (start.run before).root = root := root_run start before
    have baseline_root : (start.run before).baseline.root = (start.run before).root := by
      rw [same_root]
      exact (baseline_run root units now before).1
    obtain ⟨rooted, measured, taken⟩ := current_refresh baseline_root poll
    refine ⟨_, position, by rw [run], by rw [rooted, same_root], measured, taken, ?_⟩
    rw [run]
    split
    · next records ok => rw [warnings, ok]
    · next report failure => exact refresh_of_failure failure

theorem run_remembers_of_recovery :
    let units : Units := { capabilities := {}, tickRate := some 100 }
    let success : Poll := {
      units, outcome := .ok [{ pid := 7, startTime := some 5, virtualMemory := 30 }]
      takenAt := .ofSeconds 1 }
    let report : Report := { cause := .sourceUnavailable "/proc" "" }
    let failure : Poll := { units, outcome := .error report, takenAt := .ofSeconds 2 }
    let start := new 7 units .zero
    (start.run [success]).usage? = none ∧
    (start.run [success, failure, success]).refreshes = 3 ∧
    ∃ s, (start.published [success, failure, success])[1]? = some s ∧ s.Vacant ∧
      warnings failure = [.pollFailed report] ∧
      (start.run [success, failure]).baseline = (start.run [success]).baseline := by
  intro units success report failure start
  obtain ⟨-, tooFew, -⟩ := run_remembers 7 units .zero [success] (by decide)
  obtain ⟨remembers, -, -, each⟩ :=
    run_remembers 7 units .zero [success, failure, success] (by decide)
  obtain ⟨s, position, -, -, -, -, kept, vacant, warned⟩ := each [success] failure [success] rfl
  exact ⟨tooFew (by decide), UInt64.toNat_inj.mp remembers.refreshes, s, position, vacant, warned,
    kept⟩

end Monitor

end ProcessAccounting
