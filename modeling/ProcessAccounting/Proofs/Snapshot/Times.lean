import ProcessAccounting.Snapshot.Listing
import ProcessAccounting.Proofs.Duration

/-!
# Times in a snapshot

A snapshot turns clock ticks into time at its own tick rate, for the processor time of all members
and for the two columns of its table that show milliseconds.  At a positive rate each of these is
the exact quotient of the ticks by the rate, rounded down.
-/

namespace ProcessAccounting.Snapshot

variable {s : Snapshot} {rate : UInt64}

/-- The row of a process that shows these numbers of milliseconds as its times. -/
def rowOfMillis (p : ProcessRecord) (userMillis systemMillis : Nat) : String :=
  "\t|- " ++ " ".intercalate
    [p.pid.toNat.repr, p.parent.toNat.repr, p.group.toNat.repr, p.session.toNat.repr,
      "(" ++ p.name ++ ")", userMillis.repr, systemMillis.repr, p.virtualMemory.toNat.repr,
      p.residentMemory.toNat.repr, p.commandLine] ++ "\n"

section positive

variable (known : s.units.tickRate = some rate) (running : rate ≠ 0) (ticks : UInt64)

include known running

theorem ofTicks?_eq_some_ticksToTime :
    Duration.ofTicks? ticks rate = some (s.ticksToTime ticks) := by
  obtain ⟨d, computed, -⟩ := Duration.ofTicks?_eq_some ticks running
  simp [ticksToTime, known, computed]

theorem seconds_ticksToTime :
    (s.ticksToTime ticks).seconds.toNat = ticks.toNat / rate.toNat := by
  obtain ⟨d, computed, seconds, -⟩ := Duration.ofTicks?_eq_some ticks running
  rw [ofTicks?_eq_some_ticksToTime known running ticks, Option.some.injEq] at computed
  rw [computed, seconds, UInt64.toNat_div]

theorem totalNanos_ticksToTime :
    (s.ticksToTime ticks).totalNanos = ticks.toNat * nanosPerSecond / rate.toNat :=
  Duration.totalNanos_of_ofTicks? running (ofTicks?_eq_some_ticksToTime known running ticks)

theorem millis_ticksToTime :
    (s.ticksToTime ticks).millis = ticks.toNat * 1000 / rate.toNat :=
  Duration.millis_of_ofTicks? running (ofTicks?_eq_some_ticksToTime known running ticks)

end positive

/-- At a positive rate, ticks always have a time.  On the way to it the product fits in a double
word and the quotient in a word.  Its seconds are the quotient by the rate, the whole is the
quotient in nanoseconds, and more ticks never take less time.  The table shows the quotients in
milliseconds. -/
theorem ticksToTime_eq_quotient (known : s.units.tickRate = some rate) (running : rate ≠ 0) :
    (∀ ticks : UInt64,
      (ticks % rate).toNat * nanosPerSecond < UInt64.size * UInt64.size ∧
      (ticks % rate).toNat * nanosPerSecond / rate.toNat < UInt64.size ∧
      Duration.ofTicks? ticks rate = some (s.ticksToTime ticks) ∧
      (s.ticksToTime ticks).seconds.toNat = ticks.toNat / rate.toNat ∧
      (s.ticksToTime ticks).nanos.toNat < nanosPerSecond ∧
      (s.ticksToTime ticks).totalNanos = ticks.toNat * nanosPerSecond / rate.toNat) ∧
    (∀ fewer ticks : UInt64, fewer ≤ ticks →
      (s.ticksToTime fewer).totalNanos ≤ (s.ticksToTime ticks).totalNanos) ∧
    s.table = header ++ String.join (s.processes.map fun p =>
      rowOfMillis p (p.userTicks.toNat * 1000 / rate.toNat)
        (p.systemTicks.toNat * 1000 / rate.toNat)) := by
  have word : nanosPerSecond < UInt64.size := by decide
  refine ⟨?each, ?monotone, ?table⟩
  case each =>
    intro ticks
    refine ⟨?_, ?_, ofTicks?_eq_some_ticksToTime known running ticks,
      seconds_ticksToTime known running ticks, (s.ticksToTime ticks).nanos_lt,
      totalNanos_ticksToTime known running ticks⟩
    · exact Nat.mul_lt_mul'' (ticks % rate).toNat_lt word
    · exact Nat.lt_trans (Duration.nanos_rest_lt ticks running) word
  case monotone =>
    intro fewer ticks le
    rw [totalNanos_ticksToTime known running, totalNanos_ticksToTime known running]
    apply Nat.div_le_div_right
    exact Nat.mul_le_mul_right nanosPerSecond (UInt64.le_iff_toNat_le.mp le)
  case table =>
    have rows : s.row = fun p => rowOfMillis p (p.userTicks.toNat * 1000 / rate.toNat)
        (p.systemTicks.toNat * 1000 / rate.toNat) := by
      funext p
      rw [← millis_ticksToTime known running, ← millis_ticksToTime known running]
      rfl
    rw [table, rows]

/-- A rate of seven ticks per second, and a member with as many ticks as a word can hold. -/
theorem ticksToTime_of_full_word :
    let s : Snapshot := {
      root := 7
      members := .ofList [{ pid := 7, userTicks := 18446744073709551615, systemTicks := 13 }]
      units := { capabilities := {}, tickRate := some 7 }
      takenAt := .zero }
    s.units.tickRate = some 7 ∧ (7 : UInt64) ≠ 0 ∧
    (s.ticksToTime 18446744073709551615).totalNanos = 2635249153387078802142857142 ∧
    (13 : UInt64) ≤ 18446744073709551615 ∧
    (s.ticksToTime 13).totalNanos ≤ (s.ticksToTime 18446744073709551615).totalNanos ∧
    s.table = header ++ String.join (s.processes.map fun p =>
      rowOfMillis p (p.userTicks.toNat * 1000 / 7) (p.systemTicks.toNat * 1000 / 7)) := by
  intro s
  have known : s.units.tickRate = some 7 := rfl
  have running : (7 : UInt64) ≠ 0 := by decide
  have fewer : (13 : UInt64) ≤ 18446744073709551615 := by decide
  obtain ⟨each, monotone, table⟩ := ticksToTime_eq_quotient known running
  obtain ⟨-, -, -, -, -, nanos⟩ := each 18446744073709551615
  exact ⟨known, running, nanos, fewer, monotone _ _ fewer, table⟩

end ProcessAccounting.Snapshot
