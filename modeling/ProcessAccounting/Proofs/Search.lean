import ProcessAccounting.Proofs.Members
import ProcessAccounting.Subtree
import Mathlib.Data.List.Perm.Subperm
import Mathlib.Logic.Relation
import Mathlib.Tactic.Tauto

/-!
# The breadth-first search

What one step of the search does, the invariant that it preserves, and what the search
has found when its queue runs out.  The children and the table of records are arbitrary
here; only the search over a list of records, in `Proofs.Subtree`, fixes them.
-/

namespace ProcessAccounting.Search

theorem mem_insert_seen_iff {seen : Std.ExtTreeSet Pid} {pid new : Pid} :
    pid ∈ seen.insert new ↔ pid = new ∨ pid ∈ seen := by
  rw [Std.ExtTreeSet.mem_insert, Std.LawfulEqCmp.compare_eq_iff_eq, eq_comm]

/-- The pids in `cs` that the search has not seen enter the queue, each of them once. -/
theorem foldl_discover (cs : List Pid) (s : Search) :
    (cs.foldl discover s).table = s.table ∧ (cs.foldl discover s).found = s.found ∧
    (∀ pid, pid ∈ (cs.foldl discover s).seen ↔ pid ∈ s.seen ∨ pid ∈ cs) ∧
    ∃ fresh : List Pid, (cs.foldl discover s).queue.toList = s.queue.toList ++ fresh ∧
      fresh.Nodup ∧ ∀ pid, pid ∈ fresh ↔ pid ∈ cs ∧ pid ∉ s.seen := by
  induction cs generalizing s with
  | nil => exact ⟨rfl, rfl, by simp, [], by simp, List.nodup_nil, by simp⟩
  | cons c cs ih =>
    rw [List.foldl_cons]
    obtain ⟨table, found, seen, fresh, queue, nodup, mem⟩ := ih (s.discover c)
    by_cases old : c ∈ s.seen
    · rw [discover, if_pos old] at table found seen queue mem ⊢
      refine ⟨table, found, ?_, fresh, queue, nodup, ?_⟩
      · intro pid
        rw [seen, List.mem_cons]
        constructor
        · rintro (h | h)
          · exact .inl h
          · exact .inr (.inr h)
        · rintro (h | rfl | h)
          · exact .inl h
          · exact .inl old
          · exact .inr h
      · intro pid
        rw [mem, List.mem_cons]
        constructor
        · rintro ⟨h, new⟩
          exact ⟨.inr h, new⟩
        · rintro ⟨rfl | h, new⟩
          · exact absurd old new
          · exact ⟨h, new⟩
    · rw [discover, if_neg old] at table found seen queue mem ⊢
      simp only [Queue.toList_push, List.append_assoc, List.singleton_append] at queue
      refine ⟨table, found, ?_, c :: fresh, queue, ?_, ?_⟩
      · intro pid
        rw [seen, mem_insert_seen_iff, List.mem_cons]
        tauto
      · rw [List.nodup_cons]
        refine ⟨?_, nodup⟩
        intro again
        exact ((mem c).mp again).2 (mem_insert_seen_iff.mpr (.inl rfl))
      · intro pid
        rw [List.mem_cons, mem, List.mem_cons, mem_insert_seen_iff]
        constructor
        · rintro (rfl | ⟨h, new⟩)
          · exact ⟨.inl rfl, old⟩
          · exact ⟨.inr h, fun h' => new (.inr h')⟩
        · rintro ⟨rfl | h, new⟩
          · exact .inl rfl
          · by_cases same : pid = c
            · exact .inl same
            · exact .inr ⟨h, by rintro (h' | h'); exacts [same h', new h']⟩

theorem step_of_empty (children : Pid → List Pid) {s : Search} (empty : s.queue.toList = []) :
    s.step children = s := by
  rw [step, (Queue.pop?_eq_none_iff s.queue).mpr empty]

theorem advance_of_empty (children : Pid → List Pid) (n : Nat) {s : Search}
    (empty : s.queue.toList = []) : advance children n s = s := by
  induction n with
  | zero => rfl
  | succ n ih => rw [advance, step_of_empty children empty, ih]

/-- A step takes the first pid of the queue, collects its record and lets those of its
children enter that have not been seen. -/
theorem step_of_cons (children : Pid → List Pid) {s : Search} {pid : Pid} {rest : List Pid}
    {p : ProcessRecord} (first : s.queue.toList = pid :: rest)
    (known : s.table[pid]? = some p) :
    (s.step children).table = s.table.erase pid ∧
    (s.step children).found = s.found.insert pid p ∧
    (∀ x, x ∈ (s.step children).seen ↔ x ∈ s.seen ∨ x ∈ children pid) ∧
    ∃ fresh : List Pid, (s.step children).queue.toList = rest ++ fresh ∧
      fresh.Nodup ∧ ∀ x, x ∈ fresh ↔ x ∈ children pid ∧ x ∉ s.seen := by
  cases popped : s.queue.pop? with
  | none =>
    rw [Queue.pop?_eq_none_iff, first] at popped
    exact absurd popped (List.cons_ne_nil pid rest)
  | some taken =>
    obtain ⟨head, queue⟩ := taken
    have order := Queue.toList_of_pop? popped
    rw [first, List.cons.injEq] at order
    obtain ⟨rfl, rfl⟩ := order
    obtain ⟨table, found, seen, fresh⟩ := foldl_discover (children pid) { s with queue }
    have collected : s.step children =
        { (children pid).foldl discover { s with queue } with
          table := s.table.erase pid
          found := s.found.insert pid p } := by
      rw [step, popped]
      simp only [collect, table, found, known]
    rw [collected]
    exact ⟨rfl, rfl, seen, fresh⟩

/-- What holds between any two steps of a search for `root` in `table`. -/
structure Invariant (children : Pid → List Pid) (table : Members) (root : Pid) (s : Search) :
    Prop where
  seen_iff : ∀ pid, pid ∈ s.seen ↔ pid ∈ s.queue.toList ∨ pid ∈ s.found
  nodup : s.queue.toList.Nodup
  waiting : ∀ pid ∈ s.queue.toList, pid ∉ s.found
  left : ∀ pid, pid ∉ s.found → s.table[pid]? = table[pid]?
  kept : ∀ pid ∈ s.found, s.found[pid]? = table[pid]?
  known : ∀ pid ∈ s.seen, pid ∈ table
  closed : ∀ pid ∈ s.found, ∀ child ∈ children pid, child ∈ s.seen
  root_seen : root ∈ s.seen
  reached : ∀ pid ∈ s.seen, Relation.ReflTransGen (fun a b => b ∈ children a) root pid

variable {children : Pid → List Pid} {table : Members} {root : Pid}

theorem invariant_start (listed : root ∈ table) :
    Invariant children table root (start root table) := by
  have seen (pid : Pid) : pid ∈ (start root table).seen ↔ pid = root := by
    rw [start, mem_insert_seen_iff]
    simp
  have none_found (pid : Pid) : pid ∉ (start root table).found := Std.ExtTreeMap.not_mem_empty
  constructor
  case seen_iff =>
    intro pid
    rw [seen, start, Queue.toList_singleton, List.mem_singleton]
    exact ⟨.inl, fun h => h.elim id fun h => absurd h (none_found pid)⟩
  case nodup =>
    rw [start, Queue.toList_singleton]
    exact List.pairwise_singleton _ root
  case waiting =>
    exact fun pid _ => none_found pid
  case left =>
    exact fun pid _ => rfl
  case kept =>
    exact fun pid h => absurd h (none_found pid)
  case known =>
    intro pid h
    rwa [(seen pid).mp h]
  case closed =>
    exact fun pid h => absurd h (none_found pid)
  case root_seen =>
    exact (seen root).mpr rfl
  case reached =>
    intro pid h
    rw [(seen pid).mp h]

/-- One step preserves the invariant when every child has a record in the table. -/
theorem Invariant.step (total : ∀ pid, ∀ child ∈ children pid, child ∈ table) {s : Search}
    (inv : Invariant children table root s) :
    Invariant children table root (s.step children) := by
  cases order : s.queue.toList with
  | nil => rwa [step_of_empty children order]
  | cons pid rest =>
    have queued : pid ∈ s.queue.toList := by rw [order]; exact List.mem_cons_self
    have seen : pid ∈ s.seen := (inv.seen_iff pid).mpr (.inl queued)
    have taken : pid ∉ s.found := inv.waiting pid queued
    have nodup := inv.nodup
    rw [order, List.nodup_cons] at nodup
    obtain ⟨p, known⟩ := Members.exists_of_mem (inv.known pid seen)
    obtain ⟨table', found', seen', fresh, queue', freshNodup, freshMem⟩ :=
      step_of_cons children order ((inv.left pid taken).trans known)
    have mem_found (x : Pid) : x ∈ (s.step children).found ↔ x = pid ∨ x ∈ s.found := by
      rw [found', Members.mem_insert_iff]
    have mem_queue (x : Pid) : x ∈ (s.step children).queue.toList ↔ x ∈ rest ∨ x ∈ fresh := by
      rw [queue', List.mem_append]
    have was_queued {x : Pid} (h : x ∈ rest) : x ∈ s.queue.toList := by
      rw [order]
      exact List.mem_cons_of_mem pid h
    constructor
    case seen_iff =>
      intro x
      rw [seen', mem_queue, mem_found, freshMem, inv.seen_iff, order, List.mem_cons]
      tauto
    case nodup =>
      rw [queue', List.nodup_append]
      refine ⟨nodup.2, freshNodup, ?_⟩
      rintro a old b new rfl
      exact ((freshMem a).mp new).2 ((inv.seen_iff a).mpr (.inl (was_queued old)))
    case waiting =>
      intro x h
      rw [mem_found]
      rintro (rfl | h')
      · rcases (mem_queue x).mp h with h | h
        · exact nodup.1 h
        · exact ((freshMem x).mp h).2 seen
      · rcases (mem_queue x).mp h with h | h
        · exact inv.waiting x (was_queued h) h'
        · exact ((freshMem x).mp h).2 ((inv.seen_iff x).mpr (.inr h'))
    case left =>
      intro x h
      rw [mem_found, not_or] at h
      have other : ¬ compare pid x = .eq := by
        rw [Std.LawfulEqCmp.compare_eq_iff_eq]
        exact fun same => h.1 same.symm
      rw [table', Std.ExtTreeMap.getElem?_erase, if_neg other]
      exact inv.left x h.2
    case kept =>
      intro x h
      rw [found', Std.ExtTreeMap.getElem?_insert]
      split
      · next same =>
        rw [← Std.LawfulEqCmp.compare_eq_iff_eq.mp same, known]
      · next other =>
        rw [mem_found] at h
        rcases h with rfl | h
        · exact absurd (Std.LawfulEqCmp.compare_eq_iff_eq.mpr rfl) other
        · exact inv.kept x h
    case known =>
      intro x h
      rcases (seen' x).mp h with h | h
      · exact inv.known x h
      · exact total pid x h
    case closed =>
      intro x h child isChild
      rw [seen']
      rcases (mem_found x).mp h with rfl | h
      · exact .inr isChild
      · exact .inl (inv.closed x h child isChild)
    case root_seen =>
      exact (seen' root).mpr (.inl inv.root_seen)
    case reached =>
      intro x h
      rcases (seen' x).mp h with h | h
      · exact inv.reached x h
      · exact (inv.reached pid seen).tail h

theorem Invariant.advance (total : ∀ pid, ∀ child ∈ children pid, child ∈ table) (n : Nat)
    {s : Search} (inv : Invariant children table root s) :
    Invariant children table root (advance children n s) := by
  induction n generalizing s with
  | zero => exact inv
  | succ n ih => exact ih (inv.step total)

/-- The pids taken and those waiting are different pids of the table. -/
theorem Invariant.size_le {s : Search} (inv : Invariant children table root s) :
    s.found.size + s.queue.toList.length ≤ table.size := by
  have nodup : (s.found.keys ++ s.queue.toList).Nodup := by
    rw [List.nodup_append]
    refine ⟨Std.ExtTreeMap.nodup_keys, inv.nodup, ?_⟩
    rintro a found b queued rfl
    exact inv.waiting a queued (Std.ExtTreeMap.mem_keys.mp found)
  have subset : s.found.keys ++ s.queue.toList ⊆ table.keys := by
    intro pid h
    rw [Std.ExtTreeMap.mem_keys]
    apply inv.known pid
    rw [inv.seen_iff]
    rcases List.mem_append.mp h with h | h
    · exact .inr (Std.ExtTreeMap.mem_keys.mp h)
    · exact .inl h
  have le := (List.subperm_of_subset nodup subset).length_le
  rwa [List.length_append, Std.ExtTreeMap.length_keys, Std.ExtTreeMap.length_keys] at le

/-- As long as the queue is not empty, every step adds one record to those found. -/
theorem Invariant.size_found_step {s : Search} (inv : Invariant children table root s)
    (running : s.queue.toList ≠ []) : (s.step children).found.size = s.found.size + 1 := by
  obtain ⟨pid, rest, order⟩ := List.exists_cons_of_ne_nil running
  have queued : pid ∈ s.queue.toList := by rw [order]; exact List.mem_cons_self
  have taken : pid ∉ s.found := inv.waiting pid queued
  obtain ⟨p, known⟩ := Members.exists_of_mem (inv.known pid ((inv.seen_iff pid).mpr (.inl queued)))
  obtain ⟨-, found, -⟩ := step_of_cons children order ((inv.left pid taken).trans known)
  rw [found, Std.ExtTreeMap.size_insert]
  exact if_neg (by rwa [← Std.ExtTreeMap.mem_iff_contains])

theorem Invariant.size_found_advance (total : ∀ pid, ∀ child ∈ children pid, child ∈ table)
    (n : Nat) {s : Search} (inv : Invariant children table root s)
    (running : (Search.advance children n s).queue.toList ≠ []) :
    (Search.advance children n s).found.size = s.found.size + n := by
  induction n generalizing s with
  | zero => rfl
  | succ n ih =>
    have started : s.queue.toList ≠ [] := by
      intro empty
      rw [advance_of_empty children (n + 1) empty] at running
      exact running empty
    rw [Search.advance, ih (inv.step total) running, inv.size_found_step started]
    omega

/-- The queue runs out within as many steps as the table has records. -/
theorem queue_advance_start (total : ∀ pid, ∀ child ∈ children pid, child ∈ table)
    (listed : root ∈ table) {n : Nat} (enough : table.size ≤ n) :
    (Search.advance children n (start root table)).queue.toList = [] := by
  by_contra running
  have inv : Invariant children table root (advance children n (start root table)) :=
    (invariant_start listed).advance total n
  have size := (invariant_start listed).size_found_advance total n running
  have le := inv.size_le
  have waiting : 0 < (Search.advance children n (start root table)).queue.toList.length :=
    List.length_pos_iff.mpr running
  omega

/-- A search that has run out of pids has found the records of exactly those pids that
steps from parent to child lead to. -/
theorem found_advance_start (total : ∀ pid, ∀ child ∈ children pid, child ∈ table)
    (listed : root ∈ table) {n : Nat} (enough : table.size ≤ n) (pid : Pid) :
    (pid ∈ (Search.advance children n (start root table)).found ↔
      Relation.ReflTransGen (fun a b => b ∈ children a) root pid) ∧
    (pid ∈ (Search.advance children n (start root table)).found →
      (Search.advance children n (start root table)).found[pid]? = table[pid]?) := by
  have inv : Invariant children table root (advance children n (start root table)) :=
    (invariant_start listed).advance total n
  have done := queue_advance_start total listed enough
  have found_iff (x : Pid) : x ∈ (Search.advance children n (start root table)).seen ↔
      x ∈ (Search.advance children n (start root table)).found := by
    rw [inv.seen_iff, done]
    simp
  refine ⟨⟨?_, ?_⟩, inv.kept pid⟩
  · intro h
    exact inv.reached pid ((found_iff pid).mpr h)
  · intro path
    induction path with
    | refl => exact (found_iff root).mp inv.root_seen
    | tail _ isChild ih => exact (found_iff _).mp (inv.closed _ ih _ isChild)

end ProcessAccounting.Search
