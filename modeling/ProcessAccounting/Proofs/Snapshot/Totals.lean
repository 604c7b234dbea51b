import ProcessAccounting.Snapshot.Totals
import ProcessAccounting.Proofs.Snapshot.Conservation

/-!
# What the totals of a snapshot are

Words are added with a clamp after every addition, and the ticks of a process are themselves
such a sum.  Nothing depends on where the clamps stand: each total is the sum over natural
numbers, clamped once.  A higher age threshold never makes a total of memory greater.
-/

namespace ProcessAccounting

namespace Saturating

variable {α : Type} {xs ys : List α}

/-- Numbers may be clamped before they are summed, if the sum is clamped too. -/
theorem min_sum_map_min (bound : Nat) (number : α → Nat) (xs : List α) :
    min bound (xs.map fun x => min bound (number x)).sum = min bound (xs.map number).sum := by
  induction xs with
  | nil => rfl
  | cons x xs ih =>
    simp only [List.map_cons, List.sum_cons]
    omega

variable (word : α → UInt64)

theorem toNat_sum_map (xs : List α) :
    (sum (xs.map word)).toNat = min greatest (xs.map fun x => (word x).toNat).sum := by
  rw [toNat_sum, total_eq_sum, List.map_map]
  rfl

/-- A sum is not less than one of which terms are left out. -/
theorem sum_map_le_of_sublist (sublist : xs.Sublist ys) : sum (xs.map word) ≤ sum (ys.map word) := by
  have exact_le : (xs.map fun x => (word x).toNat).sum ≤ (ys.map fun x => (word x).toNat).sum :=
    (sublist.map _).sum_le_sum fun n _ => n.zero_le
  rw [UInt64.le_iff_toNat_le, toNat_sum_map, toNat_sum_map]
  omega

end Saturating

namespace Snapshot

variable (s : Snapshot) {a b : UInt32}

/-- What the members that count at an age threshold have together, as a natural number. -/
def exactMemory (amount : ProcessRecord → UInt64) (threshold : UInt32) : Nat :=
  ((s.processes.filter fun p => threshold = 0 ∨ threshold < p.age).map
    fun p => (amount p).toNat).sum

/-- The clock ticks that all members have spent, as a natural number. -/
def exactTicks : Nat := (s.processes.map fun p => p.userTicks.toNat + p.systemTicks.toNat).sum

theorem isCounted_iff (threshold : UInt32) (p : ProcessRecord) :
    isCounted threshold p ↔ threshold = 0 ∨ threshold < p.age := by
  simp [isCounted]

/-- The threshold 0, which lets all through, is the least one too. -/
theorem isCounted_of_le (le : a ≤ b) {p : ProcessRecord} (counts : isCounted b p) :
    isCounted a p := by
  rw [isCounted_iff] at counts ⊢
  rcases counts with zero | older
  · rw [zero] at le
    exact .inl (UInt32.le_zero_iff.mp le)
  · exact .inr (UInt32.lt_of_le_of_lt le older)

theorem counted_sublist (le : a ≤ b) : (s.counted b).Sublist (s.counted a) :=
  List.monotone_filter_right s.processes fun _ => isCounted_of_le le

theorem toNat_sum_counted (amount : ProcessRecord → UInt64) (threshold : UInt32) :
    (Saturating.sum ((s.counted threshold).map amount)).toNat =
      min (2 ^ 64 - 1) (s.exactMemory amount threshold) := by
  have same : s.counted threshold =
      s.processes.filter fun p => threshold = 0 ∨ threshold < p.age := by
    apply List.filter_congr
    intro p _
    rw [Bool.eq_iff_iff, isCounted_iff, decide_eq_true_iff]
  rw [Saturating.toNat_sum_map, same]
  rfl

theorem toNat_cpuTicks : s.cpuTicks.toNat = min (2 ^ 64 - 1) s.exactTicks := by
  have clamped (p : ProcessRecord) : p.cpuTicks.toNat =
      min Saturating.greatest (p.userTicks.toNat + p.systemTicks.toNat) :=
    Saturating.toNat_add p.userTicks p.systemTicks
  rw [cpuTicks, Saturating.toNat_sum_map]
  simp only [clamped]
  exact Saturating.min_sum_map_min _ _ s.processes

theorem residentMemory_le (le : a ≤ b) : s.residentMemory b ≤ s.residentMemory a := by
  unfold residentMemory
  split
  · exact Saturating.sum_map_le_of_sublist _ (s.counted_sublist le)
  · exact UInt64.le_refl 0

/-- Every total of a snapshot is an exact sum clamped once: of the memory of the members that
count at an age threshold, and of the ticks from which the processor time is computed.
Resident memory is 0 without its capability, and memory never grows with the threshold. -/
theorem totals_exact :
    (∀ threshold, (s.virtualMemory threshold).toNat =
      min (2 ^ 64 - 1) (s.exactMemory (·.virtualMemory) threshold)) ∧
    (∀ threshold, (s.residentMemory threshold).toNat =
      if s.units.capabilities.residentMemory then
        min (2 ^ 64 - 1) (s.exactMemory (·.residentMemory) threshold)
      else 0) ∧
    (s.cpuTime = if s.units.capabilities.cpuTime then s.ticksToTime s.cpuTicks else .zero) ∧
    s.cpuTicks.toNat = min (2 ^ 64 - 1) s.exactTicks ∧
    ∀ a b, a ≤ b → s.virtualMemory b ≤ s.virtualMemory a ∧
      s.residentMemory b ≤ s.residentMemory a := by
  refine ⟨s.toNat_sum_counted _, ?resident, rfl, s.toNat_cpuTicks, ?thresholds⟩
  case resident =>
    intro threshold
    unfold residentMemory
    split
    · exact s.toNat_sum_counted _ threshold
    · rfl
  case thresholds =>
    intro a b le
    exact ⟨Saturating.sum_map_le_of_sublist _ (s.counted_sublist le), s.residentMemory_le le⟩

/-- Three members, of which one alone fills a word with its ticks and two together with their
memory. -/
theorem totals_of_full_words :
    let s : Snapshot := {
      root := 7
      members := .ofList [
        { pid := 7, virtualMemory := 18446744073709551000, userTicks := 18446744073709551615,
          systemTicks := 3, age := 2 },
        { pid := 8, virtualMemory := 700, userTicks := 1, age := 1 },
        { pid := 9, virtualMemory := 50, systemTicks := 4 }]
      units := { capabilities := { residentMemory := false }, tickRate := some 100 }
      takenAt := .zero }
    s.exactMemory (·.virtualMemory) 0 = 2 ^ 64 + 134 ∧ s.exactTicks = 2 ^ 64 + 7 ∧
    (s.virtualMemory 0).toNat = 2 ^ 64 - 1 ∧ s.cpuTicks.toNat = 2 ^ 64 - 1 ∧
    (1 : UInt32) ≤ 2 ∧ s.virtualMemory 2 ≤ s.virtualMemory 1 := by
  intro s
  obtain ⟨virtual, -, -, ticks, thresholds⟩ := s.totals_exact
  have memory : s.exactMemory (·.virtualMemory) 0 = 2 ^ 64 + 134 := by decide +kernel
  have spent : s.exactTicks = 2 ^ 64 + 7 := by decide +kernel
  refine ⟨memory, spent, ?_, ?_, by decide, (thresholds 1 2 (by decide)).1⟩
  · rw [virtual, memory]
    rfl
  · rw [ticks, spent]
    rfl

end Snapshot

end ProcessAccounting
