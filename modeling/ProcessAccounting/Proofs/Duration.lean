import ProcessAccounting.Duration

/-!
# Exact times

The whole seconds and the remaining ticks are turned into time apart from each other, the latter
in double words of which the result is cut to one word.  Nothing is lost on the way: at a positive
rate the time is the exact quotient, rounded down to nanoseconds, and cutting it to milliseconds
rounds the same quotient.  The difference of two durations is exact as well: `sub?_eq_some_iff`.
-/

namespace ProcessAccounting.Duration

variable {rate : UInt64}

theorem rate_pos (running : rate ≠ 0) : 0 < rate.toNat := by
  apply Nat.pos_of_ne_zero
  intro zero
  exact running (UInt64.toNat_inj.mp zero)

/-- The ticks that are left after the whole seconds take less than a second. -/
theorem nanos_rest_lt (ticks : UInt64) (running : rate ≠ 0) :
    (ticks % rate).toNat * nanosPerSecond / rate.toNat < nanosPerSecond := by
  have positive := rate_pos running
  have rest : (ticks % rate).toNat < rate.toNat := by
    simpa using Nat.mod_lt ticks.toNat positive
  apply Nat.div_lt_of_lt_mul
  exact Nat.mul_lt_mul_of_pos_right rest (by simp [nanosPerSecond])

/-- Less than a second is added to whole seconds without a carry. -/
theorem add?_ofNanos (seconds : UInt64) {nanos : UInt64} (below : nanos.toNat < nanosPerSecond) :
    (ofSeconds seconds).add? (ofNanos nanos) =
      some ⟨seconds, subsecond nanos.toNat, subsecond_lt nanos.toNat⟩ := by
  have whole : nanos.toNat / nanosPerSecond = 0 := Nat.div_eq_of_lt below
  have nanos_eq : (subsecond nanos.toNat).toNat = nanos.toNat := by
    rw [toNat_subsecond, Nat.mod_eq_of_lt below]
  have fits : seconds.toNat < UInt64.size := seconds.toNat_lt
  simp [add?, ofSeconds, ofNanos, whole, nanos_eq, fits]

/-- At a positive rate any number of ticks takes some time: the whole seconds, and what is left
of them in nanoseconds. -/
theorem ofTicks?_eq_some (ticks : UInt64) (running : rate ≠ 0) :
    ∃ d, ofTicks? ticks rate = some d ∧ d.seconds = ticks / rate ∧
      d.nanos.toNat = (ticks % rate).toNat * nanosPerSecond / rate.toNat := by
  have below := nanos_rest_lt ticks running
  have word : (UInt64.ofNat ((ticks % rate).toNat * nanosPerSecond / rate.toNat)).toNat =
      (ticks % rate).toNat * nanosPerSecond / rate.toNat := by
    apply UInt64.toNat_ofNat_of_lt'
    simp only [nanosPerSecond, UInt64.size] at below ⊢
    omega
  have computed := add?_ofNanos (ticks / rate) (by rwa [word])
  rw [ofTicks?, if_neg running]
  refine ⟨_, computed, rfl, ?_⟩
  rw [toNat_subsecond, word, Nat.mod_eq_of_lt below]

theorem ofTicks?_ne_none (ticks : UInt64) (running : rate ≠ 0) : ofTicks? ticks rate ≠ none := by
  obtain ⟨d, computed, -⟩ := ofTicks?_eq_some ticks running
  simp [computed]

/-- The seconds and the nanoseconds together are the exact quotient, rounded down once. -/
theorem totalNanos_of_ofTicks? {ticks : UInt64} {d : Duration} (running : rate ≠ 0)
    (computed : ofTicks? ticks rate = some d) :
    d.totalNanos = ticks.toNat * nanosPerSecond / rate.toNat := by
  obtain ⟨e, computed', seconds, nanos⟩ := ofTicks?_eq_some ticks running
  have same : d = e := by simpa [computed] using computed'
  have positive := rate_pos running
  calc d.totalNanos
      = ticks.toNat / rate.toNat * nanosPerSecond +
          ticks.toNat % rate.toNat * nanosPerSecond / rate.toNat := by
        rw [totalNanos, same, seconds, nanos, UInt64.toNat_div, UInt64.toNat_mod]
    _ = (rate.toNat * (ticks.toNat / rate.toNat * nanosPerSecond) +
          ticks.toNat % rate.toNat * nanosPerSecond) / rate.toNat := by
        rw [Nat.mul_add_div positive]
    _ = (rate.toNat * (ticks.toNat / rate.toNat) + ticks.toNat % rate.toNat) *
          nanosPerSecond / rate.toNat := by
        rw [Nat.add_mul, Nat.mul_assoc]
    _ = ticks.toNat * nanosPerSecond / rate.toNat := by
        rw [Nat.div_add_mod]

theorem millis_eq_div (d : Duration) : d.millis = d.totalNanos / 1000000 := by
  simp only [millis, totalNanos, nanosPerSecond]
  omega

/-- Rounding down to nanoseconds first and to milliseconds then is rounding down once. -/
theorem millis_of_ofTicks? {ticks : UInt64} {d : Duration} (running : rate ≠ 0)
    (computed : ofTicks? ticks rate = some d) : d.millis = ticks.toNat * 1000 / rate.toNat := by
  have scaled : ticks.toNat * nanosPerSecond = ticks.toNat * 1000 * 1000000 := by
    simp only [nanosPerSecond]
    omega
  rw [millis_eq_div, totalNanos_of_ofTicks? running computed, Nat.div_div_eq_div_mul, scaled,
    Nat.mul_div_mul_right _ _ (by decide)]

/-- No ticks take no time, at any tick rate. -/
theorem ofTicks?_zero (rate : UInt64) : (ofTicks? 0 rate).getD .zero = .zero := by
  unfold ofTicks?
  by_cases stopped : rate = 0
  · simp [stopped]
  · simp [stopped, add?, ofSeconds, ofNanos, zero, subsecond, UInt64.size]

/-- A duration is given by its length. -/
theorem totalNanos_inj {d e : Duration} : d.totalNanos = e.totalNanos ↔ d = e := by
  constructor
  · intro same
    obtain ⟨seconds, nanos, below⟩ := d
    obtain ⟨seconds', nanos', below'⟩ := e
    simp only [totalNanos, nanosPerSecond] at same below below'
    obtain rfl : seconds = seconds' := UInt64.toNat_inj.mp (by omega)
    obtain rfl : nanos = nanos' := UInt32.toNat_inj.mp (by omega)
    rfl
  · rintro rfl
    rfl

theorem lt_iff_totalNanos_lt {d e : Duration} : d < e ↔ d.totalNanos < e.totalNanos := Iff.rfl

/-- The difference of durations is exact, whether a second is borrowed for it or not. -/
theorem exists_sub? {d e : Duration} (le : e.totalNanos ≤ d.totalNanos) :
    ∃ f, d.sub? e = some f ∧ f.totalNanos = d.totalNanos - e.totalNanos := by
  refine ⟨_, if_neg (Nat.not_lt.mpr le), ?_⟩
  have below := d.nanos_lt
  have below' := e.nanos_lt
  simp only [totalNanos, toNat_subsecond, UInt32.lt_iff_toNat_lt]
  simp only [totalNanos, nanosPerSecond] at le below below' ⊢
  have seconds : e.seconds ≤ d.seconds := UInt64.le_iff_toNat_le.mpr (by omega)
  split
  · next borrowed =>
    have second : 1 ≤ d.seconds - e.seconds := by
      rw [UInt64.le_iff_toNat_le, UInt64.toNat_sub_of_le _ _ seconds, UInt64.toNat_one]
      omega
    rw [UInt64.toNat_sub_of_le _ _ second, UInt64.toNat_sub_of_le _ _ seconds, UInt64.toNat_one]
    omega
  · next enough =>
    rw [UInt64.sub_zero, UInt64.toNat_sub_of_le _ _ seconds]
    omega

theorem sub?_eq_some_iff {d e f : Duration} :
    d.sub? e = some f ↔
      e.totalNanos ≤ d.totalNanos ∧ f.totalNanos = d.totalNanos - e.totalNanos := by
  constructor
  · intro computed
    have le : e.totalNanos ≤ d.totalNanos := by
      refine Nat.not_lt.mp fun shorter => ?_
      rw [sub?, if_pos (lt_iff_totalNanos_lt.mpr shorter)] at computed
      cases computed
    obtain ⟨f', computed', exact⟩ := exists_sub? le
    rw [computed, Option.some.injEq] at computed'
    exact ⟨le, computed' ▸ exact⟩
  · rintro ⟨le, difference⟩
    obtain ⟨f', computed, exact⟩ := exists_sub? le
    rw [computed, totalNanos_inj.mp (difference.trans exact.symm)]

end ProcessAccounting.Duration
