import ProcessAccounting.Proofs.Accountant.Run
import ProcessAccounting.Proofs.Monitor.Run
import ProcessAccounting.Proofs.Proc.Units

/-!
# The units of an accountant

What an accountant publishes says for ever the same about its units as its reader does, whether
the scans succeed or fail.
-/

namespace ProcessAccounting

/-- The snapshots that a monitor holds. -/
inductive Monitor.Holds (m : Monitor) : Snapshot → Prop
  | current : Holds m m.current
  | previous {s : Snapshot} (before : m.previous = some s) : Holds m s
  | baseline : Holds m m.baseline

/-- A poll adds nothing but the snapshot that it publishes. -/
theorem Monitor.holds_refresh {m : Monitor} {poll : Poll} {s : Snapshot}
    (held : (m.refresh poll).Holds s) : s = (m.refresh poll).current ∨ m.Holds s := by
  cases held with
  | current => exact .inl rfl
  | previous before =>
    change (if m.refreshes = 0 then m.previous else some m.current) = some s at before
    split at before
    · exact .inr (.previous before)
    · cases before
      exact .inr .current
  | baseline =>
    cases outcome : poll.outcome with
    | ok records => exact .inl (m.refresh_of_ok outcome).2
    | error report =>
      rw [(m.refresh_of_error outcome).2]
      exact .inr .baseline

namespace Accountant

/-- The accountant reads with the reader and holds only snapshots that are measured in its
units. -/
structure Measured (reader : Proc.Reader) (a : Accountant) : Prop where
  source : ∃ directory, a.source = .proc reader directory
  held : ∀ s, a.monitor.Holds s → reader.Measures s

variable {reader : Proc.Reader} {a : Accountant}

theorem measured_new (root : Pid) (directory : Proc.Directory) (now : Instant) :
    Measured reader (new root (.proc reader directory) now) where
  source := ⟨directory, rfl⟩
  held := by
    intro s held
    cases held with
    | current => exact Proc.Reader.measures_empty root now
    | previous before => cases before
    | baseline => exact Proc.Reader.measures_empty root now

/-- What is published next is measured in the units of the reader, whether the scan succeeds
or fails. -/
theorem measures_nextPoll (m : Monitor) (directory : Proc.Directory) (now : Instant) :
    reader.Measures (m.refresh (nextPoll reader directory now)).current := by
  cases scanned : (nextPoll reader directory now).outcome with
  | ok records =>
    rw [(m.refresh_of_ok scanned).1]
    exact Proc.Reader.measures_refreshed m.baseline scanned now
  | error report =>
    rw [(m.refresh_of_error scanned).1]
    exact Proc.Reader.measures_empty m.root now

theorem Measured.react (measured : Measured reader a) (event : Event) :
    Measured reader (a.react event) := by
  obtain ⟨directory, source⟩ := measured.source
  cases event with
  | change other =>
    rw [react_change source]
    exact ⟨⟨other, rfl⟩, measured.held⟩
  | refresh now =>
    rw [react_refresh source]
    refine ⟨⟨_, rfl⟩, fun s held => ?_⟩
    rcases Monitor.holds_refresh held with rfl | before
    · exact measures_nextPoll a.monitor directory now
    · exact measured.held s before

theorem Measured.run (measured : Measured reader a) (events : List Event) :
    Measured reader (a.run events) := by
  induction events generalizing a with
  | nil => exact measured
  | cons event events ih => exact ih (measured.react event)

/-- A reader is made exactly of the configurations that are valid.  Its units are the
configured ones, or else those that the system gives, and never 0.  Whatever happens to the
directory and however often it is polled, the accountant and all the snapshots that it holds
claim to measure what there are units for, and measure with these; without a page size no
member has resident memory, and there is no division by a tick rate of 0. -/
theorem ofConfig_measures (system : Proc.SystemUnits) (config : Config) :
    ((∃ reader, Proc.Reader.ofConfig system config = .ok reader) ↔ config.validate = .ok ()) ∧
    ∀ reader, Proc.Reader.ofConfig system config = .ok reader →
      reader.pageSize.map UInt64.toNat = unitInUse config.pageSize system.pageSize ∧
      reader.tickRate.map UInt64.toNat = unitInUse config.tickRate system.tickRate ∧
      reader.pageSize ≠ some 0 ∧ reader.tickRate ≠ some 0 ∧
      ∀ root directory now, ∃ a, ofConfig root system directory config now = .ok a ∧
        ∀ events,
          (a.run events).capabilities =
            { residentMemory := reader.pageSize.isSome, cpuTime := reader.tickRate.isSome } ∧
          ∀ s, (a.run events).monitor.Holds s →
            s.units.capabilities =
              { residentMemory := reader.pageSize.isSome, cpuTime := reader.tickRate.isSome } ∧
            s.units.tickRate = reader.tickRate ∧
            (reader.pageSize = none → ∀ pid p, s.get? pid = some p → p.residentMemory = 0) ∧
            (∀ ticks rate, s.units.tickRate = some rate → Duration.ofTicks? ticks rate ≠ none) ∧
            ∀ earlier rate elapsed, s.usageDivisors? earlier = some (rate, elapsed) →
              rate ≠ 0 := by
  refine ⟨⟨?_, ?_⟩, ?_⟩
  · rintro ⟨reader, made⟩
    exact (Proc.Reader.ofConfig_eq_ok_iff.mp made).1
  · intro valid
    exact ⟨_, Proc.Reader.ofConfig_eq_ok_iff.mpr ⟨valid, rfl⟩⟩
  · intro reader made
    obtain ⟨pageSize, tickRate, sized, running⟩ := Proc.Reader.units_of_ofConfig made
    refine ⟨pageSize, tickRate, sized, running, fun root directory now => ?_⟩
    refine ⟨_, ofConfig_eq_ok made directory now, fun events => ?_⟩
    have measured : Measured reader ((new root (.proc reader directory) now).run events) :=
      (measured_new root directory now).run events
    constructor
    · obtain ⟨later, source⟩ := measured.source
      rw [capabilities, source]
      rfl
    · intro s held
      have measures := measured.held s held
      refine ⟨?_, ?_, measures.unmeasured, measures.divisors running⟩
      · rw [measures.units]
        rfl
      · rw [measures.units]
        rfl

/-- A system that does not know its page size, and a tick rate that is configured. -/
theorem ofConfig_measures_of_unknown_pageSize :
    let system : Proc.SystemUnits := { pageSize := -1 }
    let reader : Proc.Reader :=
      { path := "/proc", pageSize := none, tickRate := some 250, retries := 2 }
    Proc.Reader.ofConfig system { tickRate := some 250 } = .ok reader ∧
      ∀ directory, ∃ a, ofConfig 7 system directory { tickRate := some 250 } .zero = .ok a ∧
        ∀ events pid p, (a.run events).monitor.current.get? pid = some p →
          p.residentMemory = 0 := by
  intro system reader
  have made : Proc.Reader.ofConfig system { tickRate := some 250 } = .ok reader := by rfl
  refine ⟨made, fun directory => ?_⟩
  obtain ⟨-, -, -, -, accounts⟩ := (ofConfig_measures system _).2 reader made
  obtain ⟨a, created, measured⟩ := accounts 7 directory .zero
  refine ⟨a, created, fun events => ?_⟩
  obtain ⟨-, held⟩ := measured events
  exact (held _ .current).2.2.1 rfl

end Accountant

end ProcessAccounting
