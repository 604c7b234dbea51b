import ProcessAccounting.Proofs.Duration
import ProcessAccounting.Proofs.Proc.Scan
import ProcessAccounting.Proofs.Subtree
import ProcessAccounting.Snapshot.Usage

/-!
# The units of a reader

A reader measures in the page size and the tick rate that its configuration gives, or else the
system.  Each of them is either positive or not known, and both are what a snapshot of the
reader's scans is measured in.
-/

namespace ProcessAccounting

/-- The unit that is in use, if there is one: the configured one, or else the answer of the
system as far as it is positive. -/
def unitInUse (configured : Option UInt64) (answer : Int64) : Option Nat :=
  match configured with
  | some unit => some unit.toNat
  | none => if 0 < answer.toInt then some answer.toInt.toNat else none

theorem Config.units_of_validate {config : Config} (valid : config.validate = .ok ()) :
    config.pageSize ≠ some 0 ∧ config.tickRate ≠ some 0 := by
  unfold validate contradiction? at valid
  split at valid
  · cases valid
  · next consistent =>
    split at consistent
    · cases consistent
    · next pageSize =>
      split at consistent
      · cases consistent
      · next tickRate => exact ⟨pageSize, tickRate⟩

namespace Proc

theorem toNat_toUInt64 {answer : Int64} (positive : 0 < answer.toInt) :
    answer.toUInt64.toNat = answer.toInt.toNat := by
  have value : answer.toInt = _ := answer.toBitVec.toInt_eq_toNat_cond
  have below := answer.toBitVec.isLt
  change answer.toBitVec.toNat = _
  split at value
  · omega
  · omega

/-- An answer of the system that is positive is taken as it is. -/
theorem map_toNat_positive? (answer : Int64) :
    (positive? answer).map UInt64.toNat = unitInUse none answer := by
  by_cases positive : 0 < answer.toInt
  · have answered : 0 < answer := Int64.lt_iff_toInt_lt.mpr positive
    rw [positive?, if_pos answered, unitInUse, if_pos positive, Option.map_some,
      toNat_toUInt64 positive]
  · have unanswered : ¬ 0 < answer := fun answered => positive (Int64.lt_iff_toInt_lt.mp answered)
    rw [positive?, if_neg unanswered, unitInUse, if_neg positive]
    rfl

theorem map_toNat_or_positive? (configured : Option UInt64) (answer : Int64) :
    (configured.or (positive? answer)).map UInt64.toNat = unitInUse configured answer := by
  cases configured with
  | none => exact map_toNat_positive? answer
  | some unit => rfl

theorem positive?_ne_zero (answer : Int64) : positive? answer ≠ some 0 := by
  intro zero
  have answered := map_toNat_positive? answer
  rw [zero, Option.map_some, unitInUse] at answered
  split at answered
  · next positive =>
    have same := Option.some.inj answered
    rw [UInt64.toNat_zero] at same
    omega
  · cases answered

theorem or_positive?_ne_zero {configured : Option UInt64} (positive : configured ≠ some 0)
    (answer : Int64) : configured.or (positive? answer) ≠ some 0 := by
  cases configured with
  | none => exact positive?_ne_zero answer
  | some unit => exact positive

namespace Reader

theorem ofConfig_eq_ok_iff {system : SystemUnits} {config : Config} {reader : Reader} :
    ofConfig system config = .ok reader ↔ config.validate = .ok () ∧
      { path := config.procDirectory
        pageSize := config.pageSize.or (positive? system.pageSize)
        tickRate := config.tickRate.or (positive? system.tickRate)
        retries := config.retries } = reader := by
  rw [ofConfig]
  cases config.validate with
  | error fault => exact iff_of_false (fun h => by cases h) (fun h => by cases h.1)
  | ok valid => exact ⟨fun made => ⟨rfl, Except.ok.inj made⟩, fun made => congrArg Except.ok made.2⟩

/-- The units of a reader are those of its configuration, or else of the system, and none of
them is 0. -/
theorem units_of_ofConfig {system : SystemUnits} {config : Config} {reader : Reader}
    (made : ofConfig system config = .ok reader) :
    reader.pageSize.map UInt64.toNat = unitInUse config.pageSize system.pageSize ∧
    reader.tickRate.map UInt64.toNat = unitInUse config.tickRate system.tickRate ∧
    reader.pageSize ≠ some 0 ∧ reader.tickRate ≠ some 0 := by
  obtain ⟨valid, rfl⟩ := ofConfig_eq_ok_iff.mp made
  obtain ⟨pageSize, tickRate⟩ := Config.units_of_validate valid
  exact ⟨map_toNat_or_positive? config.pageSize system.pageSize,
    map_toNat_or_positive? config.tickRate system.tickRate,
    or_positive?_ne_zero pageSize system.pageSize, or_positive?_ne_zero tickRate system.tickRate⟩

/-- The snapshot is measured in the units of the reader. -/
structure Measures (reader : Reader) (s : Snapshot) : Prop where
  units : s.units = reader.units
  unmeasured : reader.pageSize = none → ∀ pid p, s.get? pid = some p → p.residentMemory = 0

variable {reader : Reader}

theorem measures_empty (root : Pid) (now : Instant) :
    reader.Measures (.empty root reader.units now) where
  units := rfl
  unmeasured := by
    intro _ pid p found
    rw [Snapshot.get?, Snapshot.empty, Std.ExtTreeMap.getElem?_empty] at found
    cases found

/-- What follows from a scan is measured as the scan was, whatever was there before. -/
theorem measures_refreshed (baseline : Snapshot) {d : Directory} {records : List ProcessRecord}
    (scanned : (reader.scan d).1 = .ok records) (now : Instant) :
    reader.Measures (baseline.refreshed records reader.units now) where
  units := rfl
  unmeasured := by
    intro unmeasured pid p found
    rw [Snapshot.get?, Snapshot.refreshed, getElem?_carryAges, Option.map_eq_some_iff] at found
    obtain ⟨q, inSubtree, rfl⟩ := found
    obtain ⟨e, -, read⟩ := of_mem_scan scanned (of_getElem?_subtree inSubtree).1
    show q.residentMemory = 0
    exact residentMemory_of_readRepeatedly unmeasured reader.retries.toNat read

/-- A reader without zero units never divides by zero, neither to turn ticks into time nor
for the processor usage. -/
theorem Measures.divisors {s : Snapshot} (measures : reader.Measures s)
    (positive : reader.tickRate ≠ some 0) :
    (∀ ticks rate, s.units.tickRate = some rate → Duration.ofTicks? ticks rate ≠ none) ∧
    ∀ earlier rate elapsed, s.usageDivisors? earlier = some (rate, elapsed) → rate ≠ 0 := by
  have running (rate : UInt64) (known : s.units.tickRate = some rate) : rate ≠ 0 := by
    rintro rfl
    rw [measures.units] at known
    exact positive known
  refine ⟨fun ticks rate known => Duration.ofTicks?_ne_none ticks (running rate known), ?_⟩
  intro earlier rate elapsed divisors
  unfold Snapshot.usageDivisors? at divisors
  split at divisors
  · split at divisors
    · next known _ =>
      cases divisors
      exact running rate known
    · cases divisors
  · cases divisors

end Reader

end Proc

end ProcessAccounting
