import ProcessAccounting.Snapshot.Usage
import ProcessAccounting.Proofs.Snapshot.Times

/-!
# What usage is divided by

Processor usage is divided by a tick rate and by the time between two snapshots.  The time is
always positive.  The rate need not be: a source may claim to account for processor time at a rate
of 0, and while the processor time of a snapshot is then 0 as it is without a rate, usage is
computed all the same.  This is the only case in which the two disagree:
`usage_divides_by_positive_iff`.
-/

namespace ProcessAccounting

namespace Units

/-- Processor time is said to be accounted for, at a rate of 0. -/
def ZeroRate (u : Units) : Prop := u.capabilities.cpuTime = true ∧ u.tickRate = some 0

instance (u : Units) : Decidable u.ZeroRate := inferInstanceAs (Decidable (_ ∧ _))

/-- Whatever its members have spent, a snapshot in these units shows no processor time. -/
def WithoutTime (u : Units) : Prop := ∀ s : Snapshot, s.units = u → s.cpuTime = .zero

/-- A snapshot in these units shows no usage, since whenever it is measured. -/
def WithoutUsage (u : Units) : Prop :=
  ∀ s earlier : Snapshot, s.units = u → s.usageSince? earlier = none

end Units

namespace Snapshot

variable {s earlier : Snapshot} {rate : UInt64} {elapsed : Duration}

/-- Time has passed since an earlier snapshot exactly when that was taken before, and how much
is exact. -/
theorem elapsedSince?_eq_some_iff :
    s.elapsedSince? earlier = some elapsed ↔
      earlier.takenAt < s.takenAt ∧
        elapsed.totalNanos = s.takenAt.totalNanos - earlier.takenAt.totalNanos := by
  have none_passed : elapsed = .zero ↔ elapsed.totalNanos = 0 := by
    rw [← Duration.totalNanos_inj]
    rfl
  rw [elapsedSince?, Option.filter_eq_some_iff, Duration.sub?_eq_some_iff,
    Duration.lt_iff_totalNanos_lt, decide_eq_true_eq, ne_eq, none_passed]
  omega

theorem exists_elapsedSince?_iff :
    (∃ elapsed, s.elapsedSince? earlier = some elapsed) ↔ earlier.takenAt < s.takenAt := by
  simp only [elapsedSince?_eq_some_iff]
  constructor
  · rintro ⟨elapsed, later, -⟩
    exact later
  · intro later
    obtain ⟨elapsed, -, exact⟩ := Duration.exists_sub? (Nat.le_of_lt later)
    exact ⟨elapsed, later, exact⟩

/-- Usage is computed from a rate and a time whenever both are there. -/
theorem usageDivisors?_eq_some_iff :
    s.usageDivisors? earlier = some (rate, elapsed) ↔
      s.units.capabilities.cpuTime = true ∧ s.units.tickRate = some rate ∧
        s.elapsedSince? earlier = some elapsed := by
  unfold usageDivisors?
  cases s.units.capabilities.cpuTime <;> cases s.units.tickRate <;>
    cases s.elapsedSince? earlier <;> simp

/-- The time between two snapshots by which usage is divided is exact and positive. -/
theorem totalNanos_of_usageDivisors? (divisors : s.usageDivisors? earlier = some (rate, elapsed)) :
    elapsed.totalNanos = s.takenAt.totalNanos - earlier.takenAt.totalNanos ∧
      0 < elapsed.totalNanos := by
  obtain ⟨-, -, since⟩ := usageDivisors?_eq_some_iff.mp divisors
  obtain ⟨later, exact⟩ := elapsedSince?_eq_some_iff.mp since
  rw [Duration.lt_iff_totalNanos_lt] at later
  omega

theorem usageSince?_eq_none_iff :
    s.usageSince? earlier = none ↔
      ¬ (s.units.capabilities.cpuTime = true ∧ s.units.tickRate ≠ none ∧
        earlier.takenAt < s.takenAt) := by
  rw [usageSince?, Option.map_eq_none_iff, ← exists_elapsedSince?_iff]
  unfold usageDivisors?
  cases s.units.capabilities.cpuTime <;> cases s.units.tickRate <;>
    cases s.elapsedSince? earlier <;> simp

/-- The snapshot of a process that has spent the ticks of one second. -/
def ofOneSecond (units : Units) (rate : UInt64) : Snapshot :=
  { root := 0, members := .ofList [{ pid := 0, userTicks := rate }], units, takenAt := .zero }

theorem cpuTicks_ofOneSecond (units : Units) (rate : UInt64) :
    (ofOneSecond units rate).cpuTicks = rate := by
  have alone : (ofOneSecond units rate).processes = [{ pid := 0, userTicks := rate }] := rfl
  have fits := Saturating.toNat_le_greatest rate
  apply UInt64.toNat_inj.mp
  simp only [cpuTicks, alone, Saturating.toNat_sum, List.map_cons, List.map_nil,
    Saturating.total_cons, Saturating.total_nil, ProcessRecord.cpuTicks, Saturating.toNat_add,
    UInt64.toNat_zero]
  omega

end Snapshot

namespace Units

open Snapshot

variable {u : Units}

/-- There is processor time exactly when it is accounted for at a positive rate. -/
theorem withoutTime_iff :
    u.WithoutTime ↔
      ¬ (u.capabilities.cpuTime = true ∧ ∃ rate, u.tickRate = some rate ∧ rate ≠ 0) := by
  constructor
  · rintro without ⟨accounted, rate, known, running⟩
    have known' : (ofOneSecond u rate).units.tickRate = some rate := known
    have second := seconds_ticksToTime known' running rate
    have spent : (ofOneSecond u rate).cpuTime = (ofOneSecond u rate).ticksToTime rate := by
      rw [cpuTime, cpuTicks_ofOneSecond]
      exact if_pos accounted
    have no_time := without (ofOneSecond u rate) rfl
    rw [← spent, no_time, Nat.div_self (Duration.rate_pos running)] at second
    cases second
  · rintro unsupported s rfl
    unfold cpuTime ticksToTime
    split
    · next accounted =>
      cases known : s.units.tickRate with
      | none => rfl
      | some rate =>
        have stopped : rate = 0 := Decidable.byContradiction fun running =>
          unsupported ⟨accounted, rate, known, running⟩
        simp [stopped, Duration.ofTicks?]
    · rfl

/-- There is usage exactly when processor time is accounted for at any rate. -/
theorem withoutUsage_iff :
    u.WithoutUsage ↔ ¬ (u.capabilities.cpuTime = true ∧ u.tickRate ≠ none) := by
  constructor
  · rintro without ⟨accounted, known⟩
    have no_usage := without (empty 0 u (.ofSeconds 1)) (empty 0 u .zero) rfl
    have later : Duration.zero < .ofSeconds 1 := by decide
    rw [usageSince?_eq_none_iff] at no_usage
    exact no_usage ⟨accounted, known, later⟩
  · rintro unsupported s earlier rfl
    rw [usageSince?_eq_none_iff]
    rintro ⟨accounted, known, -⟩
    exact unsupported ⟨accounted, known⟩

/-- The units in which there is usage but no processor time. -/
theorem zeroRate_iff : u.ZeroRate ↔ u.WithoutTime ∧ ¬ u.WithoutUsage := by
  rw [withoutTime_iff, withoutUsage_iff, ZeroRate]
  cases u.capabilities.cpuTime <;> cases u.tickRate <;> simp

end Units

namespace Snapshot

/-- Usage is always a quotient by a tick rate and by a positive time, which is the exact time
between the two snapshots.  The rate is positive, and there is no usage where there can be no
processor time, unless processor time is said to be accounted for at a rate of 0.  With such units,
and with no others, the two differ in whether processor time is supported. -/
theorem usage_divides_by_positive_iff (s earlier : Snapshot) :
    (∀ usage, s.usageSince? earlier = some usage → ∃ rate elapsed,
      s.usageDivisors? earlier = some (rate, elapsed) ∧
      usage = (s.ticksSince earlier).toFloat / rate.toFloat / elapsed.toFloat * 100.0 ∧
      s.units.tickRate = some rate ∧
      elapsed.totalNanos = s.takenAt.totalNanos - earlier.takenAt.totalNanos ∧
      0 < elapsed.totalNanos) ∧
    ((∀ rate elapsed, s.usageDivisors? earlier = some (rate, elapsed) →
        0 < rate ∧ 0 < elapsed.totalNanos) ↔
      ¬ (s.units.ZeroRate ∧ earlier.takenAt < s.takenAt)) ∧
    ((s.units.WithoutTime → s.usageSince? earlier = none) ↔
      ¬ (s.units.ZeroRate ∧ earlier.takenAt < s.takenAt)) ∧
    ((s.units.WithoutTime ↔ s.units.WithoutUsage) ↔ ¬ s.units.ZeroRate) := by
  refine ⟨?quotient, ?divisors, ?unsupported, ?agree⟩
  case quotient =>
    intro usage shown
    obtain ⟨⟨rate, elapsed⟩, divisors, rfl⟩ := Option.map_eq_some_iff.mp shown
    obtain ⟨-, known, -⟩ := usageDivisors?_eq_some_iff.mp divisors
    exact ⟨rate, elapsed, divisors, rfl, known, totalNanos_of_usageDivisors? divisors⟩
  case divisors =>
    constructor
    · rintro positive ⟨⟨accounted, known⟩, later⟩
      obtain ⟨elapsed, since⟩ := exists_elapsedSince?_iff.mpr later
      have divisors := usageDivisors?_eq_some_iff.mpr ⟨accounted, known, since⟩
      exact absurd (positive 0 elapsed divisors).1 (by decide)
    · intro other rate elapsed divisors
      obtain ⟨accounted, known, since⟩ := usageDivisors?_eq_some_iff.mp divisors
      have later := exists_elapsedSince?_iff.mp ⟨elapsed, since⟩
      have running : rate ≠ 0 := by
        rintro rfl
        exact other ⟨⟨accounted, known⟩, later⟩
      exact ⟨UInt64.pos_iff_ne_zero.mpr running, (totalNanos_of_usageDivisors? divisors).2⟩
  case unsupported =>
    have absent : s.usageSince? earlier = none ↔
        s.units.WithoutUsage ∨ ¬ earlier.takenAt < s.takenAt := by
      rw [usageSince?_eq_none_iff, Units.withoutUsage_iff]
      grind
    rw [absent, Units.zeroRate_iff]
    grind
  case agree =>
    rw [Units.zeroRate_iff]
    have less : s.units.WithoutUsage → s.units.WithoutTime := by
      rw [Units.withoutTime_iff, Units.withoutUsage_iff]
      grind
    grind

/-- A source that reports a rate of 0 makes usage divide by it, and shows usage where there is no
processor time. -/
theorem not_usage_divides_by_positive :
    ¬ ∀ s earlier : Snapshot,
      (∀ rate elapsed, s.usageDivisors? earlier = some (rate, elapsed) →
        0 < rate ∧ 0 < elapsed.totalNanos) ∧
      (s.units.tickRate.getD 0 = 0 → s.usageSince? earlier = none) := by
  intro positive
  let units : Units := { capabilities := {}, tickRate := some 0 }
  let record : ProcessRecord := { pid := 7, startTime := some 5, userTicks := 400 }
  let earlier := (empty 7 units .zero).refreshed [record] units (.ofSeconds 1)
  let s := earlier.refreshed [{ record with userTicks := 450 }] units (.ofSeconds 2)
  have later : earlier.takenAt < s.takenAt := by
    show Duration.ofSeconds 1 < .ofSeconds 2
    decide
  obtain ⟨elapsed, since⟩ := exists_elapsedSince?_iff.mpr later
  have divisors := usageDivisors?_eq_some_iff.mpr ⟨rfl, rfl, since⟩
  have rate_pos := ((positive s earlier).1 0 elapsed divisors).1
  exact absurd rate_pos (by decide)

end Snapshot

end ProcessAccounting
