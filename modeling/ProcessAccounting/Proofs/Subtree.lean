import ProcessAccounting.Proofs.Search

/-!
# The members of a subtree

The subtree of a root holds the pids that steps from parent to child lead to, each with
the last record of that pid: `mem_subtree_iff` and `getElem?_subtree`.
-/

namespace ProcessAccounting

/-- One of the records says that `child` is a child of `parent`. -/
def IsChild (records : List ProcessRecord) (parent child : Pid) : Prop :=
  ∃ p ∈ records, p.parent = parent ∧ p.pid = child

/-- Steps from parent to child lead from `root` to the pid. -/
def Reaches (records : List ProcessRecord) (root pid : Pid) : Prop :=
  Relation.ReflTransGen (IsChild records) root pid

variable {records : List ProcessRecord} {root pid : Pid}

theorem mem_childrenOf_iff {parent child : Pid} :
    child ∈ childrenOf records parent ↔ IsChild records parent child := by
  simp only [childrenOf, IsChild, List.mem_map, List.mem_filter, beq_iff_eq, and_assoc]

theorem childIndex_eq_childrenOf (records : List ProcessRecord) :
    (fun pid => (childIndex records)[pid]?.getD []) = childrenOf records :=
  funext (childIndex_getD records)

/-- A subtree is what the search finds among the children of the records. -/
theorem subtree_of_mem (listed : root ∈ Members.ofList records) :
    subtree root records = ((Search.start root (Members.ofList records)).advance
      (childrenOf records) records.length).found := by
  simp only [subtree, if_pos listed, childIndex_eq_childrenOf]

theorem subtree_of_not_mem (absent : root ∉ Members.ofList records) :
    subtree root records = ∅ := by
  simp only [subtree, if_neg absent]

theorem size_ofList_le (records : List ProcessRecord) :
    (Members.ofList records).size ≤ records.length := by
  have le := (List.dedup_sublist (records.map (·.pid))).length_le
  rwa [← Members.size_ofList, List.length_map] at le

theorem childrenOf_mem_ofList (pid : Pid) :
    ∀ child ∈ childrenOf records pid, child ∈ Members.ofList records := by
  intro child h
  obtain ⟨p, member, -, same⟩ := mem_childrenOf_iff.mp h
  exact Members.mem_ofList_iff.mpr ⟨p, member, same⟩

/-- The members are the root, if a record has its pid, and all that it reaches. -/
theorem mem_subtree_iff :
    pid ∈ subtree root records ↔ root ∈ Members.ofList records ∧ Reaches records root pid := by
  by_cases listed : root ∈ Members.ofList records
  · have search := (Search.found_advance_start childrenOf_mem_ofList listed
      (size_ofList_le records) pid).1
    have steps : (fun a b => b ∈ childrenOf records a) = IsChild records := by
      funext parent child
      exact propext mem_childrenOf_iff
    rw [subtree_of_mem listed, search, steps]
    exact ⟨fun path => ⟨listed, path⟩, fun h => h.2⟩
  · rw [subtree_of_not_mem listed]
    exact ⟨fun h => absurd h Std.ExtTreeMap.not_mem_empty, fun h => absurd h.1 listed⟩

/-- A member has the record that the table of all records has. -/
theorem getElem?_subtree (member : pid ∈ subtree root records) :
    (subtree root records)[pid]? = (Members.ofList records)[pid]? := by
  have listed := (mem_subtree_iff.mp member).1
  rw [subtree_of_mem listed] at member ⊢
  exact (Search.found_advance_start childrenOf_mem_ofList listed
    (size_ofList_le records) pid).2 member

/-- A member is stored under its own pid, and its record is one of those read. -/
theorem of_getElem?_subtree {p : ProcessRecord}
    (found : (subtree root records)[pid]? = some p) : p ∈ records ∧ p.pid = pid := by
  rw [getElem?_subtree (Members.mem_of_getElem?_eq_some found)] at found
  exact Members.of_getElem?_ofList found

theorem root_mem_subtree (listed : root ∈ Members.ofList records) :
    root ∈ subtree root records :=
  mem_subtree_iff.mpr ⟨listed, Relation.ReflTransGen.refl⟩

/-- Two readings have the same subtree when it has the same pids in both and, for each of them,
the same last record. -/
theorem subtree_eq_of_mem_iff {records' : List ProcessRecord}
    (same : ∀ pid, pid ∈ subtree root records ↔ pid ∈ subtree root records')
    (last : ∀ pid ∈ subtree root records,
      (Members.ofList records)[pid]? = (Members.ofList records')[pid]?) :
    subtree root records = subtree root records' := by
  apply Std.ExtTreeMap.ext_getElem?
  intro pid
  by_cases member : pid ∈ subtree root records
  · rw [getElem?_subtree member, getElem?_subtree ((same pid).mp member), last pid member]
  · have absent : pid ∉ subtree root records' := fun h => member ((same pid).mpr h)
    rw [Std.ExtTreeMap.getElem?_eq_none member, Std.ExtTreeMap.getElem?_eq_none absent]

/-- The subtree is empty exactly when no record has the root's pid.  Its members are otherwise
the root and all pids that it reaches along the edges of all records, and each of them is
stored with the last record of its pid. -/
theorem subtree_eq_last_of_reached (root : Pid) (records : List ProcessRecord) :
    (subtree root records = ∅ ↔ ∀ p ∈ records, p.pid ≠ root) ∧
    ∀ pid, (pid ∈ subtree root records ↔
        (∃ p ∈ records, p.pid = root) ∧ Relation.ReflTransGen (IsChild records) root pid) ∧
      ∀ p, (subtree root records)[pid]? = some p ↔
        pid ∈ subtree root records ∧ p.pid = pid ∧
          ∃ before after, records = before ++ p :: after ∧ ∀ q ∈ after, q.pid ≠ pid := by
  refine ⟨⟨?_, ?_⟩, ?_⟩
  · intro empty p member same
    have listed : root ∈ Members.ofList records := Members.mem_ofList_iff.mpr ⟨p, member, same⟩
    have inSubtree : root ∈ subtree root records :=
      mem_subtree_iff.mpr ⟨listed, Relation.ReflTransGen.refl⟩
    rw [empty] at inSubtree
    exact Std.ExtTreeMap.not_mem_empty inSubtree
  · intro absent
    apply subtree_of_not_mem
    intro listed
    obtain ⟨p, member, same⟩ := Members.mem_ofList_iff.mp listed
    exact absent p member same
  · intro pid
    have reached : pid ∈ subtree root records ↔
        (∃ p ∈ records, p.pid = root) ∧ Reaches records root pid := by
      rw [mem_subtree_iff, Members.mem_ofList_iff]
    refine ⟨reached, fun p => ?_⟩
    rw [← Members.getElem?_ofList_eq_some_iff]
    constructor
    · intro found
      have member := Members.mem_of_getElem?_eq_some found
      exact ⟨member, by rwa [← getElem?_subtree member]⟩
    · rintro ⟨member, found⟩
      rwa [getElem?_subtree member]

-- Two processes that are each other's parent, one of them recorded twice.
example :
    let leader : ProcessRecord := { pid := 1, parent := 2 }
    let child : ProcessRecord := { pid := 2, parent := 1 }
    (subtree 1 [leader, child, { child with parent := 9 }]).toList =
      [(1, leader), (2, { child with parent := 9 })] := by
  decide +kernel

/-- When the pids are distinct, the order in which the records were read does not matter. -/
theorem subtree_eq_of_perm {records' : List ProcessRecord} (perm : records.Perm records')
    (distinct : (records.map (·.pid)).Nodup) (root : Pid) :
    subtree root records = subtree root records' := by
  have table := Members.ofList_eq_of_perm perm distinct
  have steps : IsChild records = IsChild records' := by
    funext parent child
    simp only [IsChild, perm.mem_iff]
  apply subtree_eq_of_mem_iff
  · intro pid
    rw [mem_subtree_iff, mem_subtree_iff, Reaches, Reaches, table, steps]
  · intro pid _
    rw [table]

end ProcessAccounting
