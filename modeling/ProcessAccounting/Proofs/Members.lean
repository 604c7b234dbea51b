import ProcessAccounting.ProcessRecord
import Mathlib.Data.List.Dedup

/-!
# Members by pid

What the table of a list of records holds, and the view of a table through look-up.
-/

namespace ProcessAccounting

/-- Two orders of rows with distinct keys give the same row, if any, for every key. -/
theorem filter_key_eq_of_perm {α β : Type} [BEq β] [LawfulBEq β] {key : α → β}
    {rows rows' : List α} (perm : rows.Perm rows') (distinct : (rows.map key).Nodup)
    (k : β) : rows.filter (key · == k) = rows'.filter (key · == k) := by
  have filtered := perm.filter (key · == k)
  have atMostOne : (rows.filter (key · == k)).length ≤ 1 := by
    have once := List.nodup_iff_count_le_one.mp distinct k
    rwa [List.count, List.countP_map, List.countP_eq_length_filter] at once
  cases kept : rows.filter (key · == k) with
  | nil =>
    rw [kept] at filtered
    exact (List.nil_perm.mp filtered).symm
  | cons row rest =>
    rw [kept] at filtered atMostOne
    have alone : rest = [] := by simpa using atMostOne
    rw [alone] at filtered ⊢
    exact List.singleton_perm.mp filtered

namespace Members

theorem values_eq (members : Members) : members.values = members.toList.map Prod.snd := by
  obtain ⟨inner⟩ := members
  induction inner with
  | mk tree =>
    show tree.inner.values = (Std.DTreeMap.Internal.Impl.Const.toList tree.inner).map Prod.snd
    rw [Std.DTreeMap.Internal.Impl.values_eq_map_snd,
      Std.DTreeMap.Internal.Impl.Const.toList_eq_toListModel_map, List.map_map]
    rfl

/-- The values of a table are the records found under its keys. -/
theorem mem_values_iff {members : Members} {p : ProcessRecord} :
    p ∈ members.values ↔ ∃ key : Pid, members[key]? = some p := by
  rw [values_eq, List.mem_map]
  constructor
  · rintro ⟨⟨key, q⟩, member, rfl⟩
    exact ⟨key, Std.ExtTreeMap.mem_toList_iff_getElem?_eq_some.mp member⟩
  · rintro ⟨key, found⟩
    exact ⟨(key, p), Std.ExtTreeMap.mem_toList_iff_getElem?_eq_some.mpr found, rfl⟩

/-- What the records have in order is what their keys have in order, when it can be told from
the key. -/
theorem map_values_eq {β : Type} {members : Members} {f : ProcessRecord → β} {g : Pid → β}
    (told : ∀ (key : Pid) (p : ProcessRecord), members[key]? = some p → f p = g key) :
    members.values.map f = members.keys.map g := by
  rw [values_eq, ← Std.ExtTreeMap.map_fst_toList_eq_keys, List.map_map, List.map_map]
  apply List.map_congr_left
  intro entry member
  exact told entry.1 entry.2 (Std.ExtTreeMap.mem_toList_iff_getElem?_eq_some.mp member)

theorem mem_of_getElem?_eq_some {members : Members} {pid : Pid} {p : ProcessRecord}
    (found : members[pid]? = some p) : pid ∈ members := by
  rw [Std.ExtTreeMap.mem_iff_isSome_getElem?, found]
  rfl

theorem exists_of_mem {members : Members} {pid : Pid} (member : pid ∈ members) :
    ∃ p, members[pid]? = some p := by
  rw [Std.ExtTreeMap.mem_iff_isSome_getElem?] at member
  exact Option.isSome_iff_exists.mp member

theorem mem_insert_iff {members : Members} {key pid : Pid} {p : ProcessRecord} :
    key ∈ members.insert pid p ↔ key = pid ∨ key ∈ members := by
  rw [Std.ExtTreeMap.mem_insert, Std.LawfulEqCmp.compare_eq_iff_eq, eq_comm]

theorem keys_insert_perm {members : Members} {pid : Pid} (p : ProcessRecord)
    (new : pid ∉ members) : (members.insert pid p).keys.Perm (pid :: members.keys) := by
  have distinct : (pid :: members.keys).Nodup :=
    List.nodup_cons.mpr ⟨by rwa [Std.ExtTreeMap.mem_keys], Std.ExtTreeMap.nodup_keys⟩
  rw [List.perm_ext_iff_of_nodup Std.ExtTreeMap.nodup_keys distinct]
  intro key
  rw [Std.ExtTreeMap.mem_keys, mem_insert_iff, List.mem_cons, Std.ExtTreeMap.mem_keys]

/-- A table of records holds each of them under its own pid. -/
theorem of_getElem?_ofList {records : List ProcessRecord} {pid : Pid} {p : ProcessRecord}
    (found : (ofList records)[pid]? = some p) : p ∈ records ∧ p.pid = pid := by
  rw [getElem?_ofList] at found
  have member := List.mem_of_find?_eq_some found
  have same := List.find?_some found
  exact ⟨List.mem_reverse.mp member, by simpa using same⟩

/-- The record of a pid is the last one of the list that has the pid. -/
theorem getElem?_ofList_eq_some_iff {records : List ProcessRecord} {pid : Pid}
    {p : ProcessRecord} :
    (ofList records)[pid]? = some p ↔
      p.pid = pid ∧ ∃ before after, records = before ++ p :: after ∧ ∀ q ∈ after, q.pid ≠ pid := by
  rw [getElem?_ofList, List.find?_eq_some_iff_append, beq_iff_eq]
  constructor
  · rintro ⟨same, after, before, split, others⟩
    refine ⟨same, before.reverse, after.reverse, ?_, ?_⟩
    · rw [← List.reverse_reverse records, split]
      simp
    · intro q member
      simpa using others q (List.mem_reverse.mp member)
  · rintro ⟨same, before, after, rfl, others⟩
    refine ⟨same, after.reverse, before.reverse, by simp, ?_⟩
    intro q member
    simpa using others q (List.mem_reverse.mp member)

theorem mem_ofList_iff {records : List ProcessRecord} {pid : Pid} :
    pid ∈ ofList records ↔ ∃ p ∈ records, p.pid = pid := by
  constructor
  · intro member
    obtain ⟨p, found⟩ := exists_of_mem member
    exact ⟨p, of_getElem?_ofList found⟩
  · rintro ⟨p, member, rfl⟩
    rw [Std.ExtTreeMap.mem_iff_isSome_getElem?, getElem?_ofList, List.find?_isSome]
    exact ⟨p, List.mem_reverse.mpr member, by simp⟩

/-- A table has as many records as there are different pids. -/
theorem size_ofList (records : List ProcessRecord) :
    (ofList records).size = (records.map (·.pid)).dedup.length := by
  rw [← Std.ExtTreeMap.length_keys]
  apply List.Perm.length_eq
  rw [List.perm_ext_iff_of_nodup Std.ExtTreeMap.nodup_keys (List.nodup_dedup _)]
  intro pid
  rw [Std.ExtTreeMap.mem_keys, mem_ofList_iff, List.mem_dedup, List.mem_map]

/-- A record in the back of the list hides those in the front. -/
theorem of_getElem?_ofList_append {front back : List ProcessRecord} {pid : Pid}
    {p : ProcessRecord} (member : pid ∈ ofList back)
    (found : (ofList (front ++ back))[pid]? = some p) : p ∈ back := by
  obtain ⟨q, last⟩ := exists_of_mem member
  have hides : (ofList (front ++ back))[pid]? = some q := by
    rw [getElem?_ofList] at last ⊢
    rw [List.reverse_append, List.find?_append, last]
    rfl
  rw [hides, Option.some.injEq] at found
  rw [← found]
  exact (of_getElem?_ofList last).1

/-- When the pids are distinct, the order of the records does not matter. -/
theorem ofList_eq_of_perm {records records' : List ProcessRecord}
    (perm : records.Perm records') (distinct : (records.map (·.pid)).Nodup) :
    ofList records = ofList records' := by
  apply Std.ExtTreeMap.ext_getElem?
  intro pid
  have backwards : records.reverse.Perm records'.reverse :=
    records.reverse_perm.trans (perm.trans records'.reverse_perm.symm)
  have distinct' : (records.reverse.map (·.pid)).Nodup := by
    rw [List.map_reverse]
    exact List.nodup_reverse.mpr distinct
  rw [getElem?_ofList, getElem?_ofList, ← List.head?_filter, ← List.head?_filter,
    filter_key_eq_of_perm backwards distinct' pid]

end Members

end ProcessAccounting
