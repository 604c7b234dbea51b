import ProcessAccounting.Age
import ProcessAccounting.Proofs.Subtree
import Mathlib.Data.List.Nodup

/-!
# Well-rooted members

Members are well-rooted when the parents they are stored with lead all of them to the root.
A subtree is well-rooted as soon as no pid but the root's occurs twice among the records.
-/

namespace ProcessAccounting

/-- The stored parents lead from the pid to `root`. -/
inductive Ascends (members : Members) (root : Pid) : Pid → Prop
  | here : Ascends members root root
  | up {pid : Pid} {p : ProcessRecord} (found : members[pid]? = some p)
      (rest : Ascends members root p.parent) : Ascends members root pid

/-- There are no members, or `root` is one, the stored parent of every other one is a member
too, and the stored parents lead from each member to `root`. -/
structure WellRooted (root : Pid) (members : Members) : Prop where
  root_mem : members = ∅ ∨ root ∈ members
  parent_mem : ∀ pid p, members[pid]? = some p → pid ≠ root → p.parent ∈ members
  ascends : ∀ pid ∈ members, Ascends members root pid

variable {root pid : Pid}

theorem wellRooted_empty (root : Pid) : WellRooted root ∅ where
  root_mem := .inl rfl
  parent_mem := by
    intro pid p found
    rw [Std.ExtTreeMap.getElem?_empty] at found
    cases found
  ascends := fun pid member => absurd member Std.ExtTreeMap.not_mem_empty

/-- A process that is stored as its own parent does not lead to any other root. -/
theorem not_ascends_of_self_parent {members : Members} {p : ProcessRecord}
    (found : members[pid]? = some p) (loop : p.parent = pid) (other : pid ≠ root) :
    ¬ Ascends members root pid := by
  intro path
  induction path with
  | here => exact other rfl
  | up found' rest ih =>
    rw [found, Option.some.injEq] at found'
    subst found'
    exact ih (by rwa [loop]) rfl (by rwa [loop])

/-- The two tables hold the same pids with the same parents. -/
def SameParents (members others : Members) : Prop :=
  ∀ key : Pid, others[key]?.map (·.parent) = members[key]?.map (·.parent)

theorem SameParents.symm {members others : Members} (same : SameParents members others) :
    SameParents others members :=
  fun key => (same key).symm

/-- Ages change nothing about parents. -/
theorem sameParents_carryAges (previous current : Members) :
    SameParents current (carryAges previous current) := by
  intro key
  rw [getElem?_carryAges, Option.map_map]
  rfl

section SameParents

variable {members others : Members} (same : SameParents members others)

include same

theorem SameParents.mem_iff : pid ∈ others ↔ pid ∈ members := by
  have known := congrArg Option.isSome (same pid)
  rw [Option.isSome_map, Option.isSome_map] at known
  rw [Std.ExtTreeMap.mem_iff_isSome_getElem?, Std.ExtTreeMap.mem_iff_isSome_getElem?, known]

theorem SameParents.exists_of_getElem? {q : ProcessRecord} (found : others[pid]? = some q) :
    ∃ p, members[pid]? = some p ∧ p.parent = q.parent := by
  have parent := same pid
  rw [found, Option.map_some] at parent
  exact Option.map_eq_some_iff.mp parent.symm

theorem Ascends.of_sameParents (path : Ascends members root pid) : Ascends others root pid := by
  induction path with
  | here => exact .here
  | up found rest ih =>
    obtain ⟨q, found', parent⟩ := same.symm.exists_of_getElem? found
    rw [← parent] at ih
    exact .up found' ih

theorem WellRooted.of_sameParents (rooted : WellRooted root members) : WellRooted root others where
  root_mem := by
    rcases rooted.root_mem with rfl | member
    · refine .inl (Std.ExtTreeMap.eq_empty_iff_forall_not_mem.mpr fun key member => ?_)
      exact Std.ExtTreeMap.not_mem_empty (same.mem_iff.mp member)
    · exact .inr (same.mem_iff.mpr member)
  parent_mem := by
    intro pid q found other
    obtain ⟨p, found', parent⟩ := same.exists_of_getElem? found
    rw [← parent]
    exact same.mem_iff.mpr (rooted.parent_mem pid p found' other)
  ascends := by
    intro pid member
    exact (rooted.ascends pid (same.mem_iff.mp member)).of_sameParents same

end SameParents

section Subtree

variable {records : List ProcessRecord}

/-- A child that occurs once is stored with the parent that it was reached from. -/
theorem stored_parent {parent : Pid} {p : ProcessRecord}
    (unique : ∀ p ∈ records, ∀ q ∈ records, p.pid = q.pid → p.pid ≠ root → p = q)
    (child : IsChild records parent pid) (other : pid ≠ root)
    (stored : (subtree root records)[pid]? = some p) : p.parent = parent := by
  obtain ⟨q, member, rfl, rfl⟩ := child
  obtain ⟨listed, same⟩ := of_getElem?_subtree stored
  rw [unique p listed q member same (by rwa [same])]

theorem ascends_of_reaches
    (unique : ∀ p ∈ records, ∀ q ∈ records, p.pid = q.pid → p.pid ≠ root → p = q)
    (listed : root ∈ Members.ofList records) (path : Reaches records root pid) :
    Ascends (subtree root records) root pid := by
  induction path with
  | refl => exact .here
  | @tail parent child path step ih =>
    by_cases isRoot : child = root
    · rw [isRoot]
      exact .here
    · have member : child ∈ subtree root records :=
        mem_subtree_iff.mpr ⟨listed, path.tail step⟩
      obtain ⟨p, stored⟩ := Members.exists_of_mem member
      refine .up stored ?_
      rw [stored_parent unique step isRoot stored]
      exact ih

/-- A subtree is well-rooted when no pid but the root's occurs twice. -/
theorem wellRooted_subtree
    (unique : ∀ p ∈ records, ∀ q ∈ records, p.pid = q.pid → p.pid ≠ root → p = q) :
    WellRooted root (subtree root records) := by
  by_cases listed : root ∈ Members.ofList records
  · refine ⟨.inr (root_mem_subtree listed), ?_, ?_⟩
    · intro pid p stored other
      have member := Members.mem_of_getElem?_eq_some stored
      rcases Relation.ReflTransGen.cases_tail (mem_subtree_iff.mp member).2 with
        isRoot | ⟨parent, path, step⟩
      · exact absurd isRoot other
      · rw [stored_parent unique step other stored]
        exact mem_subtree_iff.mpr ⟨listed, path⟩
    · intro pid member
      exact ascends_of_reaches unique listed (mem_subtree_iff.mp member).2
  · rw [subtree_of_not_mem listed]
    exact wellRooted_empty root

/-- A process that is a child of the root first and its own parent later is a member, but it
is stored below itself. -/
theorem not_wellRooted_of_reparented {front back : List ProcessRecord} {first : ProcessRecord}
    (listed : root ∈ Members.ofList (front ++ first :: back)) (other : first.pid ≠ root)
    (child : first.parent = root) (again : ∃ q ∈ back, q.pid = first.pid)
    (loops : ∀ q ∈ back, q.pid = first.pid → q.parent = first.pid) :
    ¬ WellRooted root (subtree root (front ++ first :: back)) := by
  intro rooted
  have step : IsChild (front ++ first :: back) root first.pid :=
    ⟨first, List.mem_append_right _ List.mem_cons_self, child, rfl⟩
  have member : first.pid ∈ subtree root (front ++ first :: back) :=
    mem_subtree_iff.mpr ⟨listed, Relation.ReflTransGen.single step⟩
  obtain ⟨q, stored⟩ := Members.exists_of_mem member
  have samePid := (of_getElem?_subtree stored).2
  have last := stored
  rw [getElem?_subtree member, List.append_cons] at last
  have inBack := Members.of_getElem?_ofList_append (Members.mem_ofList_iff.mpr again) last
  exact not_ascends_of_self_parent stored (loops q inBack samePid) other
    (rooted.ascends first.pid member)

end Subtree

end ProcessAccounting
