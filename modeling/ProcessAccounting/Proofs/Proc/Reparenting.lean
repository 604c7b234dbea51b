import ProcessAccounting.Proofs.Proc.Scripted
import ProcessAccounting.Proofs.Rooted

/-!
# A process that changes its parent during a scan

When a listing holds a pid twice, its process is read twice.  If it gets another parent in
between, it is found as a child of the first parent and stored with the second.
-/

namespace ProcessAccounting.Proc

/-- The process with pid `p` is a child of `root` when it is read first, and its own parent
from then on. -/
def reparentingAnswers (root p : Pid) (name : List UInt8) : List Response :=
  if name = entryName root then [.ok (childStat root 0)]
  else if name = entryName p then [.ok (childStat p root), .ok (childStat p p)]
  else []

/-- A directory with a listing in which a process changes its parent when it is read. -/
def reparenting (root p : Pid) (names : List (List UInt8)) : Directory :=
  .scripted (reparentingAnswers root p) [entryName root, entryName p] names

variable {root p : Pid} {names : List (List UInt8)}

theorem listedNames_reparenting : (reparenting root p names).listedNames = names :=
  Directory.listedNames_scripted

theorem responses_reparenting {pid : Pid} (own : pid = root ∨ pid = p) :
    (reparenting root p names).responses pid .stat =
      reparentingAnswers root p (entryName pid) := by
  apply Directory.responses_scripted
  rcases own with rfl | rfl
  · exact List.mem_cons_self
  · exact List.mem_cons_of_mem _ List.mem_cons_self

namespace Reader

variable {r : Reader} {d : Directory} (usable : r.pathIsUsable = true)
  (later : (reparenting root p names).Later d)

include usable later

theorem access_root_reparenting : (r.access d root .stat).1 = .ok (childStat root 0) := by
  rw [answer_of_usable usable, later.responses, responses_reparenting (.inl rfl),
    reparentingAnswers, if_pos rfl]
  cases d.timesOpened root .stat with
  | zero => rfl
  | succ k => rfl

theorem access_reparenting (other : p ≠ root) :
    (r.access d p .stat).1 =
      .ok (childStat p (if d.timesOpened p .stat = 0 then root else p)) := by
  have names_differ : entryName p ≠ entryName root := fun same => other (entryName_injective same)
  rw [answer_of_usable usable, later.responses, responses_reparenting (.inr rfl),
    reparentingAnswers, if_neg names_differ, if_pos rfl]
  match d.timesOpened p .stat with
  | 0 => rfl
  | 1 => rfl
  | k + 2 => rfl

/-- Reading the process is remembered, so that the next time it is its own parent. -/
theorem readProcess_reparenting (other : p ≠ root) :
    (∃ q, (r.readProcess p d).1 = .ok q ∧
        q.parent = if d.timesOpened p .stat = 0 then root else p) ∧
      0 < (r.readProcess p d).2.timesOpened p .stat := by
  obtain ⟨read, after⟩ := readProcess_of_childStat (access_reparenting usable later other)
  refine ⟨read, ?_⟩
  rw [after, access_of_usable usable, access_of_usable usable]
  show 0 < List.count (p, FileKind.stat) ((p, .commandLine) :: (p, .stat) :: d.opened)
  exact List.count_pos_iff.mpr (by simp)

omit later

/-- Reading the process twice finds it first as a child of `root`, then as its own child. -/
theorem found_reparenting (other : p ≠ root) (twice : 2 ≤ (listedPids names).count p) :
    ∃ front first back,
      found (r.readEach (listedPids names) (reparenting root p names)).1 =
        front ++ first :: back ∧
      first.pid = p ∧ first.parent = root ∧ (∃ q ∈ back, q.pid = p) ∧
      ∀ q ∈ back, q.pid = p → q.parent = p := by
  have occurs : p ∈ listedPids names := List.count_pos_iff.mp (by omega)
  obtain ⟨front, back, split, fresh⟩ := List.eq_append_cons_of_mem occurs
  have again : p ∈ back := by
    rw [split, List.count_append, List.count_eq_zero_of_not_mem fresh, List.count_cons_self]
      at twice
    exact List.count_pos_iff.mp (by omega)
  let before := (r.readEach front (reparenting root p names)).2
  have reached : (reparenting root p names).Later before := later_readEach front _
  have unopened : before.timesOpened p .stat = 0 := timesOpened_readEach_of_not_mem fresh .stat _
  obtain ⟨⟨first, read, fromRoot⟩, opened⟩ := readProcess_reparenting usable reached other
  rw [if_pos unopened] at fromRoot
  have followed : (reparenting root p names).Later (r.readProcess p before).2 :=
    reached.trans (later_readProcess before p)
  have parts : found (r.readEach (listedPids names) (reparenting root p names)).1 =
      found (r.readEach front (reparenting root p names)).1 ++
        first :: found (r.readEach back (r.readProcess p before).2).1 := by
    rw [split, found_readEach_append, found_readEach_cons, read]
    rfl
  refine ⟨_, first, _, parts, pid_of_readRepeatedly r.retries.toNat read, fromRoot, ?_, ?_⟩
  · refine mem_found_readEach again fun e after => ?_
    obtain ⟨⟨q, reread, -⟩, -⟩ := readProcess_reparenting usable (followed.trans after) other
    exact ⟨q, reread⟩
  · intro q member samePid
    obtain ⟨e, after, reread⟩ := of_mem_found_readEach member
    obtain ⟨⟨q', read', parent⟩, -⟩ :=
      readProcess_reparenting usable (followed.trans after) other
    have reopened := after.le_timesOpened p .stat
    rw [samePid, read', Except.ok.injEq] at reread
    rw [← reread, parent, if_neg (by omega)]

/-- A scan that reads the process twice stores it below itself. -/
theorem scan_reparenting (listed : root ∈ listedPids names) (other : p ≠ root)
    (twice : 2 ≤ (listedPids names).count p) :
    ∃ records, (r.scan (reparenting root p names)).1 = .ok records ∧
      ¬ WellRooted root (subtree root records) := by
  have rootReadable : ∀ e, (reparenting root p names).Later e →
      ∃ q, (r.readProcess root e).1 = .ok q := by
    intro e later
    obtain ⟨⟨q, read, -⟩, -⟩ := readProcess_of_childStat (access_root_reparenting usable later)
    exact ⟨q, read⟩
  obtain ⟨rootRecord, rootFound, rootPid⟩ := mem_found_readEach listed rootReadable
  refine ⟨found (r.readEach (listedPids names) (reparenting root p names)).1, ?_, ?_⟩
  · rw [scan, pids_of_usable usable rfl, listedNames_reparenting]
    exact summarise_of_mem rootFound
  · obtain ⟨front, first, back, split, samePid, child, again, loops⟩ :=
      found_reparenting usable other twice
    have rootListed := Members.mem_ofList_iff.mpr ⟨rootRecord, rootFound, rootPid⟩
    rw [split] at rootListed ⊢
    subst samePid
    exact not_wellRooted_of_reparented rootListed other child again loops

end Reader

end ProcessAccounting.Proc
