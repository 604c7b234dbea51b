import ProcessAccounting.Proofs.Proc.Independence
import ProcessAccounting.Proofs.Proc.Scripted

/-!
# The records of a scan

A scan that succeeds gives the processes that could be read, in the order of the listing.  A
process that cannot be read leaves no trace in the records of the others, and neither does any
other change to its files: `scan_records`.
-/

namespace ProcessAccounting.Proc

theorem mem_found_iff {outcomes : List Outcome} {p : ProcessRecord} :
    p ∈ found outcomes ↔ .ok p ∈ outcomes := by
  have read (outcome : Outcome) : outcome.toOption = some p ↔ outcome = .ok p := by
    cases outcome with
    | error report => exact iff_of_false (fun h => nomatch h) (fun h => nomatch h)
    | ok q => simp [Except.toOption]
  simp only [found, List.mem_filterMap, read, exists_eq_right]

namespace Reader

variable {r : Reader} {d e : Directory} {pid : Pid} {pids pids' : List Pid} {p : ProcessRecord}

theorem age_of_readProcess (ok : (r.readProcess pid d).1 = .ok p) :
    p.age = 0 ∧ p.startTime.isSome = true :=
  of_readRepeatedly (P := fun p => p.age = 0 ∧ p.startTime.isSome = true) r.retries.toNat
    (fun _ _ => StatLine.age_of_read) (fun _ _ same => same) ok

/-- Each process is read in the directory that reading those before it has left. -/
theorem outcomes_readEach_mapIdx (pids : List Pid) (d : Directory) :
    (r.readEach pids d).1 =
      pids.mapIdx fun i pid => (r.readProcess pid (r.readEach (pids.take i) d).2).1 := by
  induction pids generalizing d with
  | nil => rfl
  | cons first pids ih =>
    rw [List.mapIdx_cons]
    show (r.readProcess first d).1 :: (r.readEach pids (r.readProcess first d).2).1 = _
    rw [ih]
    rfl

/-- The outcomes of a listing without repetitions hold a record exactly when it is what reading
its process gives. -/
theorem ok_mem_readEach_iff (distinct : pids.Nodup) :
    .ok p ∈ (r.readEach pids d).1 ↔ p.pid ∈ pids ∧ (r.readProcess p.pid d).1 = .ok p := by
  rw [outcomes_readEach distinct, List.mem_map]
  constructor
  · rintro ⟨pid, member, read⟩
    have same : p.pid = pid := pid_of_readRepeatedly r.retries.toNat read
    rw [same]
    exact ⟨member, read⟩
  · rintro ⟨member, read⟩
    exact ⟨p.pid, member, read⟩

theorem records_of_scan {records : List ProcessRecord} (listed : r.pids d = .ok pids)
    (scanned : (r.scan d).1 = .ok records) : records = found (r.readEach pids d).1 := by
  rw [scan, listed] at scanned
  exact summarise_eq_found scanned

/-- A listed process that is read alone is found by a scan. -/
theorem exists_scan_of_readProcess (listed : r.pids d = .ok pids) (distinct : pids.Nodup)
    (member : p.pid ∈ pids) (read : (r.readProcess p.pid d).1 = .ok p) :
    ∃ records, (r.scan d).1 = .ok records ∧ p ∈ records := by
  have among : p ∈ found (r.readEach pids d).1 :=
    mem_found_iff.mpr ((ok_mem_readEach_iff distinct).mpr ⟨member, read⟩)
  refine ⟨_, ?_, among⟩
  rw [scan, listed]
  exact summarise_of_mem among

/-- A record of a scan without repetitions is what reading its process alone gives. -/
theorem mem_scan_iff {records : List ProcessRecord} (listed : r.pids d = .ok pids)
    (distinct : pids.Nodup) (scanned : (r.scan d).1 = .ok records) :
    p ∈ records ↔ p.pid ∈ pids ∧ (r.readProcess p.pid d).1 = .ok p := by
  rw [records_of_scan listed scanned, mem_found_iff, ok_mem_readEach_iff distinct]

/-- A successful scan gives what could be read of the listed processes, one after the other in
the order of the listing, and each record is one of the process it was read for, with its start
time and without an age.  In a listing without repetitions each process is read as if it were
alone: whatever becomes of the others, as long as its own files are the same its record is found
again, and no other record of it. -/
theorem scan_records {records : List ProcessRecord} (scanned : (r.scan d).1 = .ok records) :
    ∃ pids, r.pids d = .ok pids ∧
      records = found
        (pids.mapIdx fun i pid => (r.readProcess pid (r.readEach (pids.take i) d).2).1) ∧
      (∀ pid e p, (r.readProcess pid e).1 = .ok p →
        p.pid = pid ∧ p.age = 0 ∧ p.startTime.isSome = true) ∧
      (pids.Nodup →
        records = found (pids.map fun pid => (r.readProcess pid d).1) ∧
        ∀ e pids', r.pids e = .ok pids' → pids'.Nodup →
          ∀ p, p.pid ∈ pids → p.pid ∈ pids' → d.SameFiles p.pid e →
            (p ∈ records → ∃ records', (r.scan e).1 = .ok records' ∧ p ∈ records') ∧
            ∀ records', (r.scan e).1 = .ok records' → (p ∈ records ↔ p ∈ records')) := by
  cases listed : r.pids d with
  | error fault =>
    rw [scan, listed] at scanned
    cases scanned
  | ok pids =>
    have sequence := records_of_scan listed scanned
    refine ⟨pids, rfl, ?_, ?_, fun distinct => ⟨?_, ?_⟩⟩
    · rw [sequence, outcomes_readEach_mapIdx]
    · intro pid e p ok
      exact ⟨pid_of_readRepeatedly r.retries.toNat ok, age_of_readProcess ok⟩
    · rw [sequence, outcomes_readEach distinct]
    · intro e pids' listed' distinct' p member member' same
      have alone : (r.readProcess p.pid d).1 = (r.readProcess p.pid e).1 :=
        (sameReading_readProcess same).1
      have present : p ∈ records ↔ (r.readProcess p.pid d).1 = .ok p := by
        rw [mem_scan_iff listed distinct scanned, and_iff_right member]
      constructor
      · intro among
        rw [present, alone] at among
        exact exists_scan_of_readProcess listed' distinct' member' among
      · intro records' scanned'
        rw [present, alone, mem_scan_iff listed' distinct' scanned', and_iff_right member']

theorem scan_records_of_changed_neighbour :
    let reader : Reader :=
      { path := "/proc", pageSize := some 4096, tickRate := some 100, retries := 1 }
    let own : Entry := { name := [0x37], stat := [.error 11, .ok (childStat 7 1)] }
    let d : Directory := { entries :=
      [{ name := [0x39] }, own, { name := [0x38], stat := [.ok (childStat 8 7)] }] }
    let e : Directory := { entries :=
      [{ name := [0x39], stat := [.ok [0x3F]] }, own, { name := [0x38], stat := [.error 13] }] }
    let record : ProcessRecord := { pid := 7, parent := 1, startTime := some 0 }
    (reader.scan d).1 = .ok [record, { pid := 8, parent := 7, startTime := some 0 }] ∧
    ∃ records, (reader.scan e).1 = .ok records ∧ record ∈ records := by
  intro reader own d e record
  have scanned : (reader.scan d).1 =
      .ok [record, { pid := 8, parent := 7, startTime := some 0 }] := by decide +kernel
  obtain ⟨pids, listed, -, -, independent⟩ := scan_records scanned
  have listed' : reader.pids e = .ok [9, 7, 8] := by decide +kernel
  have all : pids = [9, 7, 8] := by
    have known : reader.pids d = .ok [9, 7, 8] := by decide +kernel
    rw [known] at listed
    cases listed
    rfl
  have same : d.SameFiles 7 e :=
    ⟨fun file => by cases file <;> decide +kernel, fun _ => rfl⟩
  subst all
  exact ⟨scanned, (((independent (by decide)).2 e [9, 7, 8] listed' (by decide) record (by decide)
    (by decide) same).1 List.mem_cons_self)⟩

end Reader

end ProcessAccounting.Proc
