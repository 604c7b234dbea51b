import ProcessAccounting.Proofs.Accountant.Run
import ProcessAccounting.Proofs.Monitor.Run
import ProcessAccounting.Proofs.Proc.Reparenting
import Mathlib.Data.List.Duplicate

/-!
# Snapshots of an accountant are well-rooted

As long as no process but the root is listed twice, everything published is well-rooted,
whatever happens to the files between and during the scans; a listing that names a process
twice is enough to break it.
-/

namespace ProcessAccounting

/-- The root is not among the pids, or every other pid occurs at most once. -/
def Unambiguous (root : Pid) (pids : List Pid) : Prop :=
  root ∉ pids ∨ (pids.filter (· ≠ root)).Nodup

instance (root : Pid) (pids : List Pid) : Decidable (Unambiguous root pids) :=
  inferInstanceAs (Decidable (_ ∨ _))

/-- Records of unambiguously listed pids make a well-rooted tree. -/
theorem wellRooted_of_unambiguous {root : Pid} {pids : List Pid} {records : List ProcessRecord}
    (read : (records.map (·.pid)).Sublist pids) (unambiguous : Unambiguous root pids) :
    WellRooted root (subtree root records) := by
  rcases unambiguous with absent | nodup
  · have unread : root ∉ Members.ofList records := by
      intro member
      obtain ⟨p, listed, same⟩ := Members.mem_ofList_iff.mp member
      exact absent (read.subset (List.mem_map.mpr ⟨p, listed, same⟩))
    rw [subtree_of_not_mem unread]
    exact wellRooted_empty root
  · have kept : ((records.map (·.pid)).filter (· ≠ root)).Nodup := (read.filter _).nodup nodup
    rw [List.filter_map] at kept
    apply wellRooted_subtree
    intro p listed q listed' same other
    refine List.inj_on_of_nodup_map kept ?_ ?_ same
    · exact List.mem_filter.mpr ⟨listed, decide_eq_true other⟩
    · rw [same] at other
      exact List.mem_filter.mpr ⟨listed', decide_eq_true other⟩

/-- A directory that appears has an admitted listing. -/
def Event.Admitted (admitted : List (List UInt8) → Prop) : Event → Prop
  | .change directory => admitted directory.listedNames
  | .refresh _ => True

/-- What a poll publishes is well-rooted if its scan finds unambiguous records. -/
theorem Monitor.wellRooted_refresh {root : Pid} {m : Monitor} {poll : Poll}
    (baseline_root : m.baseline.root = root)
    (rooted : ∀ records, poll.outcome = .ok records → WellRooted root (subtree root records)) :
    WellRooted root (m.refresh poll).current.members := by
  cases outcome : poll.outcome with
  | error report =>
    rw [(m.refresh_of_error outcome).1]
    exact wellRooted_empty root
  | ok records =>
    rw [(m.refresh_of_ok outcome).1, Snapshot.refreshed, baseline_root]
    exact (rooted records outcome).of_sameParents (sameParents_carryAges _ _)

namespace Accountant

/-- The accountant reads admitted listings and has published a well-rooted snapshot. -/
structure Rooted (reader : Proc.Reader) (root : Pid) (admitted : List (List UInt8) → Prop)
    (a : Accountant) : Prop where
  source : ∃ directory, a.source = .proc reader directory ∧ admitted directory.listedNames
  baseline_root : a.monitor.baseline.root = root
  published : WellRooted root a.monitor.current.members

variable {reader : Proc.Reader} {root : Pid} {admitted : List (List UInt8) → Prop}

theorem rooted_new {directory : Proc.Directory} (admits : admitted directory.listedNames)
    (now : Instant) : Rooted reader root admitted (new root (.proc reader directory) now) where
  source := ⟨directory, rfl, admits⟩
  baseline_root := rfl
  published := wellRooted_empty root

theorem Rooted.react {a : Accountant} (rooted : Rooted reader root admitted a)
    (unambiguous : reader.pathIsUsable = false ∨
      ∀ names, admitted names → Unambiguous root (Proc.listedPids names))
    {event : Event} (admits : event.Admitted admitted) :
    Rooted reader root admitted (a.react event) := by
  obtain ⟨directory, source, listing⟩ := rooted.source
  cases event with
  | change other =>
    rw [react_change source]
    exact ⟨⟨other, rfl, admits⟩, rooted.baseline_root, rooted.published⟩
  | refresh now =>
    rw [react_refresh source]
    have later : directory.Later (reader.scan directory).2 := Proc.Reader.later_scan directory
    refine ⟨⟨_, rfl, ?_⟩, ?_, ?_⟩
    · rw [later.listedNames]
      exact listing
    · exact Monitor.baseline_root_refresh _ rooted.baseline_root
    · refine Monitor.wellRooted_refresh rooted.baseline_root fun records scanned => ?_
      rcases unambiguous with unusable | unambiguous
      · rw [nextPoll, Proc.Reader.scan_of_unusable unusable] at scanned
        cases scanned
      · exact wellRooted_of_unambiguous (Proc.Reader.pids_scan scanned)
          (unambiguous _ listing)

theorem Rooted.run {a : Accountant} (rooted : Rooted reader root admitted a)
    (unambiguous : reader.pathIsUsable = false ∨
      ∀ names, admitted names → Unambiguous root (Proc.listedPids names))
    {events : List Event} (admits : ∀ event ∈ events, event.Admitted admitted) :
    Rooted reader root admitted (a.run events) := by
  induction events generalizing a with
  | nil => exact rooted
  | cons event events ih =>
    rw [run_cons]
    exact ih (rooted.react unambiguous (admits event List.mem_cons_self))
      fun later member => admits later (List.mem_cons_of_mem event member)

/-- A listing that names a process twice can make a refresh publish a process that its
stored parents do not lead to the root. -/
theorem exists_refresh_of_ambiguous (usable : reader.pathIsUsable = true)
    {names : List (List UInt8)} (ambiguous : ¬ Unambiguous root (Proc.listedPids names)) :
    ∃ directory : Proc.Directory, directory.listedNames = names ∧
      ¬ WellRooted root ((new root (.proc reader directory) .zero).run
        [.refresh .zero]).monitor.current.members := by
  rw [Unambiguous, not_or, not_not] at ambiguous
  obtain ⟨listed, repeated⟩ := ambiguous
  obtain ⟨pid, twice⟩ := List.exists_duplicate_iff_not_nodup.mpr repeated
  have other : pid ≠ root := by simpa using (List.mem_filter.mp twice.mem).2
  have count : 2 ≤ (Proc.listedPids names).count pid :=
    Nat.le_trans (List.duplicate_iff_two_le_count.mp twice) (List.filter_sublist.count_le pid)
  obtain ⟨records, scanned, unrooted⟩ := Proc.Reader.scan_reparenting usable listed other count
  refine ⟨Proc.reparenting root pid names, Proc.listedNames_reparenting, ?_⟩
  intro rooted
  rw [run_cons, react_refresh rfl] at rooted
  have outcome : (nextPoll reader (Proc.reparenting root pid names) .zero).outcome =
      .ok records := scanned
  change WellRooted root (Monitor.refresh _ _).current.members at rooted
  rw [(Monitor.refresh_of_ok _ outcome).1] at rooted
  exact unrooted (rooted.of_sameParents (sameParents_carryAges _ _).symm)

/-- Over all directories with admitted listings, everything published is well-rooted exactly
when no admitted listing that has the root names another process twice, or the path is one
that the system cannot be asked about. -/
theorem wellRooted_iff_unambiguous (system : Proc.SystemUnits) (config : Config) (root : Pid)
    (admitted : List (List UInt8) → Prop)
    (accepted : Proc.Reader.ofConfig system config = .ok reader) :
    (∀ (directory : Proc.Directory) (now : Instant) (events : List Event) (a : Accountant),
      admitted directory.listedNames → (∀ event ∈ events, event.Admitted admitted) →
      ofConfig root system directory config now = .ok a →
      WellRooted root (a.run events).monitor.current.members) ↔
    reader.pathIsUsable = false ∨
      ∀ names, admitted names → Unambiguous root (Proc.listedPids names) := by
  constructor
  · intro rooted
    cases usable : reader.pathIsUsable with
    | false => exact .inl rfl
    | true =>
      refine .inr fun names admits => ?_
      by_contra ambiguous
      obtain ⟨directory, listing, unrooted⟩ := exists_refresh_of_ambiguous usable ambiguous
      rw [← listing] at admits
      have refreshes : ∀ event ∈ [Event.refresh .zero], event.Admitted admitted := by
        intro event member
        rw [List.mem_singleton.mp member]
        trivial
      exact unrooted (rooted directory .zero [.refresh .zero] _ admits refreshes
        (ofConfig_eq_ok accepted directory .zero))
  · intro unambiguous directory now events a admits changes created
    rw [ofConfig_eq_ok accepted, Except.ok.injEq] at created
    rw [← created]
    exact ((rooted_new admits now).run unambiguous changes).published

theorem wellRooted_of_two_names :
    let reader : Proc.Reader :=
      { path := "/proc", pageSize := some 4096, tickRate := some 100, retries := 2 }
    Proc.Reader.ofConfig {} {} = .ok reader ∧
      ∀ (directory : Proc.Directory) (events : List Event) (a : Accountant),
        directory.listedNames = [[0x37], [0x38]] →
        (∀ event ∈ events, event.Admitted (· = [[0x37], [0x38]])) →
        ofConfig 7 {} directory {} .zero = .ok a →
        WellRooted 7 (a.run events).monitor.current.members := by
  intro reader
  have accepted : Proc.Reader.ofConfig {} {} = .ok reader := by decide +kernel
  refine ⟨accepted, ?_⟩
  intro directory events a admits
  refine (wellRooted_iff_unambiguous {} {} 7 _ accepted).mpr (.inr ?_) directory .zero events a admits
  rintro names rfl
  decide +kernel

/-- Names that differ can be names of one process, so that a refresh over a listing in which
no name occurs twice can publish a process whose stored parent is not a member. -/
theorem not_wellRooted_of_distinct_names :
    ¬ ∀ (system : Proc.SystemUnits) (config : Config) (root : Pid)
      (directory : Proc.Directory) (now : Instant) (events : List Event) (a : Accountant),
      directory.listedNames.Nodup → (∀ event ∈ events, event.Admitted List.Nodup) →
      ofConfig root system directory config now = .ok a →
      WellRooted root (a.run events).monitor.current.members := by
  intro rooted
  let directory : Proc.Directory := { entries := [
    { name := [0x37], stat := [.ok (Proc.childStat 7 1)] },
    { name := [0x38], stat := [.ok (Proc.childStat 8 7), .ok (Proc.childStat 8 99)] },
    { name := [0x2B, 0x38] }] }
  have refreshes : ∀ event ∈ [Event.refresh .zero], event.Admitted List.Nodup := by
    intro event member
    rw [List.mem_singleton.mp member]
    trivial
  let reader : Proc.Reader :=
    { path := "/proc", pageSize := some 4096, tickRate := some 100, retries := 2 }
  have accepted : Proc.Reader.ofConfig {} {} = .ok reader := by decide +kernel
  have published := rooted {} {} 7 directory .zero [.refresh .zero] _ (by decide) refreshes
    (ofConfig_eq_ok accepted directory .zero)
  have stored : ((new 7 (.proc reader directory) .zero).run
      [.refresh .zero]).monitor.current.members[(8 : Pid)]? =
        some { pid := 8, parent := 99, startTime := some 0 } := by
    decide +kernel
  have absent := published.parent_mem 8 _ stored (by decide)
  revert absent
  decide +kernel

end Accountant

end ProcessAccounting
