import ProcessAccounting.Proofs.Monitor.History

/-!
# Processes outside the tree

A record leads to a member or holds one only if its own process is a member.  So the records of
all other processes can be left out of a reading without changing its subtree, and out of all
readings of a run without changing what the run publishes.
-/

namespace ProcessAccounting

/-- The records of those processes that belong to the tree of `root`. -/
def insiders (root : Pid) (records : List ProcessRecord) : List ProcessRecord :=
  records.filter fun p => p.pid ∈ subtree root records

variable {records : List ProcessRecord} {root pid : Pid}

theorem mem_insiders_iff {p : ProcessRecord} :
    p ∈ insiders root records ↔ p ∈ records ∧ p.pid ∈ subtree root records := by
  simp [insiders]

/-- A member has the same last record among the insiders as among all records. -/
theorem getElem?_ofList_insiders (member : pid ∈ subtree root records) :
    (Members.ofList (insiders root records))[pid]? = (Members.ofList records)[pid]? := by
  rw [Members.getElem?_ofList, Members.getElem?_ofList, insiders, ← List.filter_reverse,
    List.find?_filter]
  congr 1
  funext p
  by_cases own : p.pid = pid
  · simp [own, member]
  · simp [own]

/-- Every step on the way to a member stays possible. -/
theorem reaches_insiders (listed : root ∈ Members.ofList records)
    (path : Reaches records root pid) : Reaches (insiders root records) root pid := by
  induction path with
  | refl => exact .refl
  | @tail parent child path step ih =>
    have member : child ∈ subtree root records := mem_subtree_iff.mpr ⟨listed, path.tail step⟩
    obtain ⟨p, recorded, parent_eq, pid_eq⟩ := step
    rw [← pid_eq] at member
    exact ih.tail ⟨p, mem_insiders_iff.mpr ⟨recorded, member⟩, parent_eq, pid_eq⟩

/-- Leaving records out makes no new way to a process. -/
theorem reaches_of_insiders (path : Reaches (insiders root records) root pid) :
    Reaches records root pid := by
  have step_of_insiders : IsChild (insiders root records) ≤ IsChild records := by
    intro parent child step
    obtain ⟨p, inside, parent_eq, pid_eq⟩ := step
    exact ⟨p, (mem_insiders_iff.mp inside).1, parent_eq, pid_eq⟩
  exact Relation.ReflTransGen.mono step_of_insiders root pid path

theorem mem_subtree_insiders_iff :
    pid ∈ subtree root (insiders root records) ↔ pid ∈ subtree root records := by
  have root_listed : root ∈ Members.ofList (insiders root records) ↔
      root ∈ Members.ofList records := by
    constructor
    · intro inside
      obtain ⟨p, member, pid_eq⟩ := Members.mem_ofList_iff.mp inside
      exact Members.mem_ofList_iff.mpr ⟨p, (mem_insiders_iff.mp member).1, pid_eq⟩
    · intro listed
      rwa [Std.ExtTreeMap.mem_iff_isSome_getElem?,
        getElem?_ofList_insiders (root_mem_subtree listed),
        ← Std.ExtTreeMap.mem_iff_isSome_getElem?]
  rw [mem_subtree_iff, mem_subtree_iff, root_listed]
  apply and_congr_right
  intro listed
  exact ⟨reaches_of_insiders, reaches_insiders listed⟩

/-- The subtree of the insiders is the subtree. -/
theorem subtree_insiders (root : Pid) (records : List ProcessRecord) :
    subtree root (insiders root records) = subtree root records := by
  apply Eq.symm
  apply subtree_eq_of_mem_iff
  · intro pid
    exact mem_subtree_insiders_iff.symm
  · intro pid member
    exact (getElem?_ofList_insiders member).symm

/-- The poll with a reading of the insiders only.  A failed poll has no reading and stays as it
is. -/
def Poll.insiders (root : Pid) (poll : Poll) : Poll :=
  { poll with outcome := poll.outcome.map (ProcessAccounting.insiders root) }

namespace Monitor

variable {m : Monitor}

/-- One refresh cannot tell the reading from its insiders. -/
theorem refresh_insiders (baseline_root : m.baseline.root = root) (poll : Poll) :
    m.refresh (poll.insiders root) = m.refresh poll := by
  cases outcome : poll.outcome with
  | error report =>
    simp [refresh, nextSnapshot, Poll.insiders, outcome, Except.map]
  | ok records =>
    have same := subtree_insiders root records
    simp [refresh, nextSnapshot, Poll.insiders, outcome, Except.map, Snapshot.refreshed,
      baseline_root, same, Except.isOk, Except.toBool]

theorem run_insiders (baseline_root : m.baseline.root = root) (polls : List Poll) :
    m.run (polls.map (·.insiders root)) = m.run polls := by
  induction polls generalizing m with
  | nil => rfl
  | cons poll polls ih =>
    show (m.refresh (poll.insiders root)).run (polls.map (·.insiders root)) = _
    rw [refresh_insiders baseline_root]
    exact ih (baseline_root_refresh poll baseline_root)

theorem published_insiders (baseline_root : m.baseline.root = root) (polls : List Poll) :
    m.published (polls.map (·.insiders root)) = m.published polls := by
  induction polls generalizing m with
  | nil => rfl
  | cons poll polls ih =>
    rw [List.map_cons, published, published, refresh_insiders baseline_root,
      ih (baseline_root_refresh poll baseline_root)]

/-- Processes outside the tree have no influence: leaving their records out of a reading leaves
the subtree as it is, and leaving them out of every reading of a run leaves every published
snapshot as it is, with its members, their ages and all totals, and so the monitor itself. -/
theorem published_eq_of_insiders (root : Pid) :
    (∀ records, subtree root (insiders root records) = subtree root records) ∧
    ∀ (units : Units) (now : Instant) (polls : List Poll),
      (new root units now).published (polls.map (·.insiders root)) =
        (new root units now).published polls ∧
      (new root units now).run (polls.map (·.insiders root)) = (new root units now).run polls := by
  refine ⟨subtree_insiders root, ?_⟩
  intro units now polls
  have baseline_root : (new root units now).baseline.root = root := rfl
  exact ⟨published_insiders baseline_root polls, run_insiders baseline_root polls⟩

end Monitor

end ProcessAccounting
