import ProcessAccounting.Proofs.Proc.Access
import ProcessAccounting.Proofs.Proc.StatLine

/-!
# What a scan finds

A scan reads the listed pids one after the other.  The records that it finds carry pids of
the listing, in its order.
-/

namespace ProcessAccounting.Proc

/-- The names that a listing of the directory shows. -/
def Directory.listedNames (d : Directory) : List (List UInt8) :=
  (d.entries.filter (·.listed)).map (·.name)

/-- The pids that a reader takes from listed names. -/
def listedPids (names : List (List UInt8)) : List Pid :=
  names.filterMap fun name => (Text.Numeral.readUInt32 (Text.Lossy.decode name)).toOption

theorem Directory.Later.listedNames {d e : Directory} (later : d.Later e) :
    e.listedNames = d.listedNames := by
  rw [Directory.listedNames, Directory.listedNames, later.entries]

/-- The records among the outcomes. -/
def found (outcomes : List Outcome) : List ProcessRecord := outcomes.filterMap (·.toOption)

namespace Reader

variable {r : Reader} {d : Directory} {pid : Pid} {p : ProcessRecord}

theorem pids_of_usable (usable : r.pathIsUsable = true) (listable : d.listingFault = none) :
    r.pids d = .ok (listedPids d.listedNames) := by
  have noPids : (d.endFault.toList.map (Except.error (α := List UInt8))).filterMap pidOfEntry? =
      [] := by
    cases d.endFault <;> rfl
  rw [pids, if_pos usable, Directory.listing, listable]
  simp only
  rw [List.filterMap_append, noPids, List.append_nil, listedPids, Directory.listedNames,
    List.filterMap_map, List.filterMap_map]
  rfl

theorem pids_of_unlistable {errno : Errno} (usable : r.pathIsUsable = true)
    (unlistable : d.listingFault = some errno) :
    r.pids d = .error (.sourceUnavailable r.path errno.message) := by
  rw [pids, if_pos usable, Directory.listing, unlistable]

theorem pids_eq_listedPids {pids : List Pid} (listed : r.pids d = .ok pids) :
    pids = listedPids d.listedNames := by
  cases usable : r.pathIsUsable with
  | false =>
    rw [Reader.pids, if_neg (by simp [usable])] at listed
    cases listed
  | true =>
    cases listable : d.listingFault with
    | none =>
      rw [pids_of_usable usable listable] at listed
      cases listed
      rfl
    | some errno =>
      rw [pids_of_unlistable usable listable] at listed
      cases listed

/-- A directory that can be listed is scanned by reading its pids one after the other. -/
theorem scan_of_usable (usable : r.pathIsUsable = true) (listable : d.listingFault = none) :
    r.scan d = (r.summarise (r.readEach (listedPids d.listedNames) d).1,
      (r.readEach (listedPids d.listedNames) d).2) := by
  rw [scan, pids_of_usable usable listable]

theorem scan_of_unlistable {errno : Errno} (usable : r.pathIsUsable = true)
    (unlistable : d.listingFault = some errno) :
    r.scan d = (.error { cause := .sourceUnavailable r.path errno.message }, d) := by
  rw [scan, pids_of_unlistable usable unlistable]

/-- A path that the system cannot be asked about gives no processes. -/
theorem scan_of_unusable (unusable : r.pathIsUsable = false) :
    r.scan d =
      (.error { cause := .sourceUnavailable r.path AccessFault.zeroInPath.message }, d) := by
  rw [scan, pids, if_neg (by simp [unusable])]

/-- What is made of a stat file is read from its text. -/
theorem read_of_interpret {contents : List UInt8} (ok : r.interpret pid contents = .ok p) :
    StatLine.read pid r.pageSize (Text.Lossy.decode contents) = .ok p := by
  unfold interpret at ok
  cases read : StatLine.read pid r.pageSize (Text.Lossy.decode contents) with
  | error fault => rw [read] at ok; cases ok
  | ok q =>
    rw [read] at ok
    cases ok
    rfl

section Property

/-! What holds of everything that a stat file can say, whatever the command line is, holds of
every process that is read. -/

variable {P : ProcessRecord → Prop}

theorem of_readOnce
    (stat : ∀ line q, StatLine.read pid r.pageSize line = .ok q → P q)
    (arguments : ∀ q commandLine, P q → P { q with commandLine })
    (ok : (r.readOnce pid d).1 = .ok p) : P p := by
  unfold readOnce at ok
  split at ok
  · cases ok
  · split at ok
    · cases ok
    · next q interpreted =>
      have holds := stat _ q (read_of_interpret interpreted)
      split at ok
      · cases ok
        exact arguments q _ holds
      · cases ok
        exact holds

theorem of_readRepeatedly (n : Nat)
    (stat : ∀ line q, StatLine.read pid r.pageSize line = .ok q → P q)
    (arguments : ∀ q commandLine, P q → P { q with commandLine })
    (ok : (r.readRepeatedly pid n d).1 = .ok p) : P p := by
  induction n generalizing d with
  | zero => exact of_readOnce stat arguments ok
  | succ n ih =>
    unfold readRepeatedly at ok
    cases once : r.readOnce pid d with
    | mk outcome e =>
      rw [once] at ok
      simp only at ok
      split at ok
      · exact ih ok
      · exact of_readOnce (d := d) stat arguments (by rw [once]; exact ok)

end Property

/-- A process that is read has the pid that it was read under. -/
theorem pid_of_readRepeatedly (n : Nat) (ok : (r.readRepeatedly pid n d).1 = .ok p) :
    p.pid = pid :=
  of_readRepeatedly (P := (·.pid = pid)) n (fun _ _ => StatLine.pid_of_read)
    (fun _ _ same => same) ok

/-- Without a page size, no resident memory is counted. -/
theorem residentMemory_of_readRepeatedly (unmeasured : r.pageSize = none) (n : Nat)
    (ok : (r.readRepeatedly pid n d).1 = .ok p) : p.residentMemory = 0 := by
  refine of_readRepeatedly (P := (·.residentMemory = 0)) n ?_ (fun _ _ none => none) ok
  rw [unmeasured]
  exact fun _ _ => StatLine.residentMemory_of_read

theorem found_readEach_cons (pid : Pid) (pids : List Pid) (d : Directory) :
    found (r.readEach (pid :: pids) d).1 =
      found [(r.readProcess pid d).1] ++ found (r.readEach pids (r.readProcess pid d).2).1 :=
  List.filterMap_append (l := [(r.readProcess pid d).1])

theorem found_readEach_append (front back : List Pid) (d : Directory) :
    found (r.readEach (front ++ back) d).1 =
      found (r.readEach front d).1 ++ found (r.readEach back (r.readEach front d).2).1 := by
  induction front generalizing d with
  | nil => rfl
  | cons pid front ih =>
    rw [List.cons_append, found_readEach_cons, found_readEach_cons, ih, List.append_assoc]
    rfl

/-- A listed process that can always be read is found. -/
theorem mem_found_readEach {pids : List Pid} (member : pid ∈ pids) {d : Directory}
    (readable : ∀ e, d.Later e → ∃ p, (r.readProcess pid e).1 = .ok p) :
    ∃ p ∈ found (r.readEach pids d).1, p.pid = pid := by
  obtain ⟨front, back, rfl⟩ := List.append_of_mem member
  obtain ⟨p, read⟩ := readable _ (later_readEach front d)
  have same : p.pid = pid := pid_of_readRepeatedly r.retries.toNat read
  refine ⟨p, ?_, same⟩
  rw [found_readEach_append, found_readEach_cons, read]
  exact List.mem_append_right _ List.mem_cons_self

/-- A record that is found came from reading its process at some time. -/
theorem of_mem_found_readEach {pids : List Pid} {d : Directory}
    (member : p ∈ found (r.readEach pids d).1) :
    ∃ e, d.Later e ∧ (r.readProcess p.pid e).1 = .ok p := by
  induction pids generalizing d with
  | nil => cases member
  | cons pid pids ih =>
    rw [found_readEach_cons, List.mem_append] at member
    rcases member with first | later
    · cases read : (r.readProcess pid d).1 with
      | error report => rw [read] at first; cases first
      | ok q =>
        rw [read] at first
        have isFirst : p = q := List.mem_singleton.mp first
        have same : q.pid = pid := pid_of_readRepeatedly r.retries.toNat read
        rw [isFirst, same]
        exact ⟨d, .refl d, read⟩
    · obtain ⟨e, after, read⟩ := ih later
      exact ⟨e, (later_readProcess d pid).trans after, read⟩

/-- The records carry pids that were to be read, in the same order. -/
theorem pids_found_readEach (pids : List Pid) (d : Directory) :
    ((found (r.readEach pids d).1).map (·.pid)).Sublist pids := by
  induction pids generalizing d with
  | nil => exact List.Sublist.refl []
  | cons pid pids ih =>
    rw [found_readEach_cons, List.map_append]
    have rest := ih (r.readProcess pid d).2
    cases read : (r.readProcess pid d).1 with
    | error report => exact rest.cons pid
    | ok p =>
      have same : p.pid = pid := pid_of_readRepeatedly r.retries.toNat read
      have head : (found [(Except.ok p : Outcome)]).map (·.pid) = [pid] := by rw [← same]; rfl
      rw [head]
      exact rest.cons_cons pid

theorem summarise_eq_found {outcomes : List Outcome} {records : List ProcessRecord}
    (ok : r.summarise outcomes = .ok records) : records = found outcomes := by
  rw [summarise] at ok
  split at ok
  · cases ok
  · cases ok
    rfl

theorem summarise_of_mem {outcomes : List Outcome} (member : p ∈ found outcomes) :
    r.summarise outcomes = .ok (found outcomes) := by
  have filled : (outcomes.filterMap (·.toOption)).isEmpty = false :=
    List.isEmpty_eq_false_iff.mpr (List.ne_nil_of_mem member)
  rw [summarise]
  simp only [filled, Bool.false_and, Bool.false_eq_true, if_false]
  rfl

/-- A process that is read at once is not read again. -/
theorem readProcess_of_ok (ok : (r.readOnce pid d).1 = .ok p) :
    r.readProcess pid d = r.readOnce pid d := by
  unfold readProcess
  cases r.retries.toNat with
  | zero => rfl
  | succ n =>
    cases once : r.readOnce pid d with
    | mk outcome e =>
      rw [once] at ok
      simp only at ok
      subst ok
      rw [readRepeatedly, once]
      rfl

/-- A successful scan finds records with listed pids, in the order of the listing. -/
theorem pids_scan {records : List ProcessRecord} (scanned : (r.scan d).1 = .ok records) :
    (records.map (·.pid)).Sublist (listedPids d.listedNames) := by
  unfold scan at scanned
  split at scanned
  · cases scanned
  · next pids listed =>
    rw [summarise_eq_found scanned, ← pids_eq_listedPids listed]
    exact pids_found_readEach pids d

/-- A record of a successful scan came from reading its process at some time. -/
theorem of_mem_scan {records : List ProcessRecord} (scanned : (r.scan d).1 = .ok records)
    (member : p ∈ records) : ∃ e, d.Later e ∧ (r.readProcess p.pid e).1 = .ok p := by
  unfold scan at scanned
  split at scanned
  · cases scanned
  · rw [summarise_eq_found scanned] at member
    exact of_mem_found_readEach member

end Reader

end ProcessAccounting.Proc
