import ProcessAccounting.Proofs.Subtree
import ProcessAccounting.Snapshot.Basic

/-!
# Trees of two roots

A process has one parent when every pid is recorded once, so the ancestors of a process form a
chain, which may run into a circle.  Two roots that have a member in common both stand in its
chain: one of them is a member of the other's tree, and the trees are nested.
-/

namespace ProcessAccounting

/-- Every process of the one table is in the other, under the same pid. -/
def Members.Within (members others : Members) : Prop :=
  ∀ (pid : Pid) (p : ProcessRecord), members[pid]? = some p → others[pid]? = some p

variable {records : List ProcessRecord} {root other pid : Pid}

/-- When no pid is recorded twice, no process is a child of two parents. -/
theorem isChild_unique (distinct : (records.map (·.pid)).Nodup) {parent parent' child : Pid}
    (step : IsChild records parent child) (step' : IsChild records parent' child) :
    parent = parent' := by
  obtain ⟨p, member, parent_eq, pid_eq⟩ := step
  obtain ⟨q, member', parent_eq', pid_eq'⟩ := step'
  have same : p = q :=
    List.inj_on_of_nodup_map distinct member member' (pid_eq.trans pid_eq'.symm)
  rw [← parent_eq, ← parent_eq', same]

/-- Of two pids that lead to a common one, one leads to the other. -/
theorem reaches_or_reaches (distinct : (records.map (·.pid)).Nodup)
    (path : Reaches records root pid) (path' : Reaches records other pid) :
    Reaches records root other ∨ Reaches records other root := by
  -- Seen from the common pid, both paths go up, and there is only one way up.
  have one_way : Relator.RightUnique (Function.swap (IsChild records)) := by
    intro child parent parent' step step'
    exact isChild_unique distinct step step'
  rcases Relation.ReflTransGen.total_of_right_unique one_way path.swap path'.swap with
    below | above
  · exact .inr below.swap
  · exact .inl above.swap

/-- The trees of two roots agree on the processes that they share. -/
theorem getElem?_subtree_eq (member : pid ∈ subtree root records)
    (member' : pid ∈ subtree other records) :
    (subtree root records)[pid]? = (subtree other records)[pid]? := by
  rw [getElem?_subtree member, getElem?_subtree member']

/-- The tree of a member is a part of the tree. -/
theorem subtree_within (member : other ∈ subtree root records) :
    (subtree other records).Within (subtree root records) := by
  intro pid p found
  have below := Members.mem_of_getElem?_eq_some found
  have path := (mem_subtree_iff.mp below).2
  obtain ⟨listed, toMember⟩ := mem_subtree_iff.mp member
  have inside : pid ∈ subtree root records := mem_subtree_iff.mpr ⟨listed, toMember.trans path⟩
  rwa [← getElem?_subtree_eq below inside]

/-- When the trees of two roots have a member in common, one root is a member of the other's
tree. -/
theorem mem_subtree_or_mem_subtree (distinct : (records.map (·.pid)).Nodup)
    (member : pid ∈ subtree root records) (member' : pid ∈ subtree other records) :
    root ∈ subtree other records ∨ other ∈ subtree root records := by
  obtain ⟨listed, path⟩ := mem_subtree_iff.mp member
  obtain ⟨listed', path'⟩ := mem_subtree_iff.mp member'
  rcases reaches_or_reaches distinct path path' with below | above
  · exact .inr (mem_subtree_iff.mpr ⟨listed, below⟩)
  · exact .inl (mem_subtree_iff.mpr ⟨listed', above⟩)

/-- A snapshot has the pids of the subtree for its members. -/
theorem Snapshot.mem_members_refreshed (s : Snapshot) (units : Units) (takenAt : Instant) :
    pid ∈ (s.refreshed records units takenAt).members ↔ pid ∈ subtree s.root records := by
  show pid ∈ carryAges _ _ ↔ _
  rw [Std.ExtTreeMap.mem_iff_isSome_getElem?, getElem?_carryAges, Option.isSome_map,
    ← Std.ExtTreeMap.mem_iff_isSome_getElem?]

/-- The trees of any two roots agree on the processes that they share, and the tree of a member
is a part of the tree.  When no pid is recorded twice, two trees share no process unless one of
the roots is a member of the other's tree, which then holds all of its tree.  So the snapshots
that follow from the records account for a process twice only in the latter case. -/
theorem subtree_nested_or_disjoint (records : List ProcessRecord) (root other : Pid) :
    (∀ pid, pid ∈ subtree root records → pid ∈ subtree other records →
      (subtree root records)[pid]? = (subtree other records)[pid]?) ∧
    (∀ member ∈ subtree root records,
      (subtree member records).Within (subtree root records)) ∧
    ((records.map (·.pid)).Nodup →
      (∀ pid ∈ subtree root records, pid ∉ subtree other records) ∨
      (root ∈ subtree other records ∧
        (subtree root records).Within (subtree other records)) ∨
      (other ∈ subtree root records ∧
        (subtree other records).Within (subtree root records))) ∧
    ((records.map (·.pid)).Nodup → ∀ (s t : Snapshot) (units units' : Units)
      (takenAt takenAt' : Instant) (pid : Pid),
      pid ∈ (s.refreshed records units takenAt).members →
      pid ∈ (t.refreshed records units' takenAt').members →
      s.root ∈ (t.refreshed records units' takenAt').members ∨
        t.root ∈ (s.refreshed records units takenAt).members) := by
  refine ⟨?agree, ?part, ?trees, ?snapshots⟩
  case agree =>
    intro pid member member'
    exact getElem?_subtree_eq member member'
  case part =>
    intro member inside
    exact subtree_within inside
  case trees =>
    intro distinct
    by_cases common : ∃ pid ∈ subtree root records, pid ∈ subtree other records
    · obtain ⟨pid, member, member'⟩ := common
      right
      rcases mem_subtree_or_mem_subtree distinct member member' with inside | inside
      · exact .inl ⟨inside, subtree_within inside⟩
      · exact .inr ⟨inside, subtree_within inside⟩
    · left
      intro pid member member'
      exact common ⟨pid, member, member'⟩
  case snapshots =>
    intro distinct s t units units' takenAt takenAt' pid member member'
    simp only [Snapshot.mem_members_refreshed] at member member' ⊢
    exact mem_subtree_or_mem_subtree distinct member member'

/-- Two processes that are each other's parent, and a child of one of them: the trees of the first
two are the same, and the tree of the child is a part of them. -/
theorem subtree_nested_of_circle :
    let records : List ProcessRecord :=
      [{ pid := 1, parent := 2 }, { pid := 2, parent := 1 }, { pid := 3, parent := 2 },
        { pid := 4, parent := 4 }]
    (records.map (·.pid)).Nodup ∧
    ((∀ pid ∈ subtree 1 records, pid ∉ subtree 3 records) ∨
      (1 ∈ subtree 3 records ∧ (subtree 1 records).Within (subtree 3 records)) ∨
      (3 ∈ subtree 1 records ∧ (subtree 3 records).Within (subtree 1 records))) ∧
    2 ∈ subtree 1 records ∧ (subtree 2 records).Within (subtree 1 records) ∧
    (subtree 2 records)[(3 : Pid)]? = (subtree 1 records)[(3 : Pid)]? := by
  intro records
  have distinct : (records.map (·.pid)).Nodup := by decide
  have below : 2 ∈ subtree 1 records := by decide +kernel
  obtain ⟨-, part, trees, -⟩ := subtree_nested_or_disjoint records 1 3
  obtain ⟨agree, -⟩ := subtree_nested_or_disjoint records 2 1
  exact ⟨distinct, trees distinct, below, part 2 below,
    agree 3 (by decide +kernel) (by decide +kernel)⟩

end ProcessAccounting
