import ProcessAccounting.Proofs.Members
import ProcessAccounting.Proofs.Proc.Independence
import ProcessAccounting.Proofs.Proc.Scan

/-!
# The order of a listing

A directory may list its entries in any order.  When neither two names nor two listed pids
are the same, the order has no influence on what a scan finds but for the order of the
records: `sameRecords_scan`.
-/

namespace ProcessAccounting.Proc

/-- No two entries have the same name, and no two listed names are names of one process. -/
structure Directory.Distinct (d : Directory) : Prop where
  names : (d.entries.map (·.name)).Nodup
  pids : (listedPids d.listedNames).Nodup

theorem Directory.Later.distinct {d e : Directory} (later : d.Later e) (distinct : d.Distinct) :
    e.Distinct where
  names := by
    rw [later.entries]
    exact distinct.names
  pids := by
    rw [later.listedNames]
    exact distinct.pids

/-- `e` is the directory `d` with its entries in another order. -/
structure Directory.Reordered (d e : Directory) : Prop where
  entries : d.entries.Perm e.entries
  listingFault : e.listingFault = d.listingFault
  endFault : e.endFault = d.endFault
  opened : d.opened.Perm e.opened

namespace Directory.Reordered

variable {d e : Directory}

theorem refl (d : Directory) : d.Reordered d := ⟨.refl _, rfl, rfl, .refl _⟩

theorem listedPids (reordered : d.Reordered e) :
    (Proc.listedPids d.listedNames).Perm (Proc.listedPids e.listedNames) :=
  ((reordered.entries.filter _).map _).filterMap _

/-- Files are looked up by name, so the order of the entries does not matter to them. -/
theorem sameFiles (reordered : d.Reordered e) (distinct : d.Distinct) (pid : Pid) :
    d.SameFiles pid e := by
  constructor
  · intro file
    rw [responses, responses,
      filter_key_eq_of_perm reordered.entries distinct.names (entryName pid)]
  · intro file
    exact (reordered.opened.count_eq (pid, file)).symm

/-- Directories stay reordered as long as their files are opened equally often. -/
theorem of_later {d' e' : Directory} (reordered : d.Reordered e) (later : d.Later d')
    (later' : e.Later e') (same : ∀ pid, d'.SameFiles pid e') : d'.Reordered e' where
  entries := by
    rw [later.entries, later'.entries]
    exact reordered.entries
  listingFault := by rw [later.listingFault, later'.listingFault, reordered.listingFault]
  endFault := by rw [later.endFault, later'.endFault, reordered.endFault]
  opened := List.perm_iff_count.mpr fun (pid, file) => ((same pid).timesOpened file).symm

end Directory.Reordered

/-- Both readings failed for the same reason, or both found the same records in some order. -/
inductive SameRecords :
    Except Report (List ProcessRecord) → Except Report (List ProcessRecord) → Prop
  | failed (report : Report) : SameRecords (.error report) (.error report)
  | read {records records' : List ProcessRecord} (perm : records.Perm records') :
    SameRecords (.ok records) (.ok records')

namespace Reader

variable {r : Reader} {d e : Directory}

/-- What the outcomes amount to does not depend on their order. -/
theorem sameRecords_summarise {outcomes outcomes' : List Outcome}
    (perm : outcomes.Perm outcomes') :
    SameRecords (r.summarise outcomes) (r.summarise outcomes') := by
  have records : (outcomes.filterMap (·.toOption)).Perm (outcomes'.filterMap (·.toOption)) :=
    perm.filterMap _
  have empty := records.isEmpty_eq
  have denied : outcomes.countP isDenied = outcomes'.countP isDenied := perm.countP_eq _
  simp only [summarise, empty, denied]
  split
  · exact .failed _
  · exact .read records

/-- Reading the same processes in another order gives the same outcomes in that order, and
leaves every process behind in the same state. -/
theorem readEach_of_perm {pids pids' : List Pid} (perm : pids.Perm pids')
    (distinct : pids.Nodup) (same : ∀ pid, d.SameFiles pid e) :
    (r.readEach pids d).1.Perm (r.readEach pids' e).1 ∧
      ∀ pid, (r.readEach pids d).2.SameFiles pid (r.readEach pids' e).2 := by
  have distinct' : pids'.Nodup := perm.nodup_iff.mp distinct
  constructor
  · have each : (fun pid => (r.readProcess pid d).1) = fun pid => (r.readProcess pid e).1 :=
      funext fun pid => (sameReading_readProcess (same pid)).1
    rw [outcomes_readEach distinct, outcomes_readEach distinct', each]
    exact perm.map _
  · intro pid
    by_cases member : pid ∈ pids
    · have one := (sameReading_readProcess (r := r) (same pid)).2
      have before := (sameFiles_readEach (r := r) distinct member d).symm
      exact (before.trans one).trans (sameFiles_readEach distinct' (perm.mem_iff.mp member) e)
    · have absent : pid ∉ pids' := fun member' => member (perm.mem_iff.mpr member')
      have before := (sameFiles_readEach_of_not_mem (r := r) member d).symm
      exact (before.trans (same pid)).trans (sameFiles_readEach_of_not_mem absent e)

/-- Scans of reordered directories find the same records, and leave reordered directories
behind. -/
theorem sameRecords_scan (r : Reader) (reordered : d.Reordered e) (distinct : d.Distinct) :
    SameRecords (r.scan d).1 (r.scan e).1 ∧ (r.scan d).2.Reordered (r.scan e).2 := by
  cases usable : r.pathIsUsable with
  | false =>
    rw [scan_of_unusable usable, scan_of_unusable usable]
    exact ⟨.failed _, reordered⟩
  | true =>
    cases fault : d.listingFault with
    | some errno =>
      have fault' : e.listingFault = some errno := by rw [reordered.listingFault, fault]
      rw [scan_of_unlistable usable fault, scan_of_unlistable usable fault']
      exact ⟨.failed _, reordered⟩
    | none =>
      have fault' : e.listingFault = none := by rw [reordered.listingFault, fault]
      obtain ⟨outcomes, files⟩ :=
        readEach_of_perm (r := r) reordered.listedPids distinct.pids (reordered.sameFiles distinct)
      rw [scan_of_usable usable fault, scan_of_usable usable fault']
      exact ⟨sameRecords_summarise outcomes,
        reordered.of_later (later_readEach _ d) (later_readEach _ e) files⟩

end Reader

end ProcessAccounting.Proc
