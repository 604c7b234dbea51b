import ProcessAccounting.Proofs.Subtree

/-!
# The passes of the search

The search as a loop that nothing bounds but its queue: each pass takes one pid, and the loop ends
when no pid is left.  It does end, after as many passes as the subtree has members, and a search
that may take that many pids or more finds the same.
-/

namespace ProcessAccounting

/-- One pass of the loop. -/
structure Pass where
  /-- The pid that is taken from the queue. -/
  taken : Pid
  /-- The record that the table has for the pid when it is taken. -/
  record : Option ProcessRecord
  /-- The pids that are put into the queue, in this order. -/
  entered : List Pid

namespace Search

/-- The pids of a list that enter the queue when they are discovered one after the other. -/
def entering (s : Search) : List Pid → List Pid
  | [] => []
  | c :: cs =>
    if c ∈ s.seen then (s.discover c).entering cs else c :: (s.discover c).entering cs

/-- The pass that comes next, unless the queue is empty. -/
def pass? (children : Pid → List Pid) (s : Search) : Option Pass :=
  s.queue.pop?.map fun (pid, queue) =>
    { taken := pid
      record := s.table[pid]?
      entered := { s with queue }.entering (children pid) }

/-- The loop goes from the one search to the other in these passes, and ends there. -/
inductive Drains (children : Pid → List Pid) : Search → List Pass → Search → Prop
  | done {s : Search} (idle : s.pass? children = none) : Drains children s [] s
  | take {s t : Search} {pass : Pass} {passes : List Pass} (next : s.pass? children = some pass)
      (rest : Drains children (s.step children) passes t) : Drains children s (pass :: passes) t

variable {children : Pid → List Pid} {table : Members} {root : Pid} {s t : Search} {pass : Pass}
  {passes : List Pass}

theorem toList_foldl_discover (cs : List Pid) (s : Search) :
    (cs.foldl discover s).queue.toList = s.queue.toList ++ s.entering cs := by
  induction cs generalizing s with
  | nil => simp [entering]
  | cons c cs ih =>
    rw [List.foldl_cons, ih, entering]
    by_cases old : c ∈ s.seen
    · simp [discover, old]
    · simp [discover, old]

theorem queue_collect (s : Search) (pid : Pid) : (s.collect pid).queue = s.queue := by
  unfold collect
  split <;> rfl

theorem pass?_eq_none_iff : s.pass? children = none ↔ s.queue.toList = [] := by
  rw [pass?, Option.map_eq_none_iff, Queue.pop?_eq_none_iff]

/-- A pass takes the first pid of the queue and puts its own pids after all others. -/
theorem queue_of_pass? (next : s.pass? children = some pass) :
    ∃ rest, s.queue.toList = pass.taken :: rest ∧
      (s.step children).queue.toList = rest ++ pass.entered := by
  obtain ⟨⟨pid, queue⟩, popped, rfl⟩ := Option.map_eq_some_iff.mp next
  refine ⟨queue.toList, Queue.toList_of_pop? popped, ?_⟩
  simp only [step, popped, queue_collect, toList_foldl_discover]

theorem record_of_pass? (next : s.pass? children = some pass) :
    pass.record = s.table[pass.taken]? := by
  obtain ⟨_, -, rfl⟩ := Option.map_eq_some_iff.mp next
  rfl

/-- The pid of a pass has not been taken before.  Its record is still in the table, and it is what
the pass adds to the records found. -/
theorem Invariant.of_pass? (inv : Invariant children table root s)
    (next : s.pass? children = some pass) :
    ∃ p, pass.record = some p ∧ table[pass.taken]? = some p ∧ pass.taken ∉ s.found ∧
      (s.step children).found = s.found.insert pass.taken p := by
  obtain ⟨rest, order, -⟩ := queue_of_pass? next
  have queued : pass.taken ∈ s.queue.toList := by rw [order]; exact List.mem_cons_self
  have new : pass.taken ∉ s.found := inv.waiting pass.taken queued
  have seen : pass.taken ∈ s.seen := (inv.seen_iff pass.taken).mpr (.inl queued)
  obtain ⟨p, known⟩ := Members.exists_of_mem (inv.known pass.taken seen)
  have left : s.table[pass.taken]? = some p := (inv.left pass.taken new).trans known
  exact ⟨p, (record_of_pass? next).trans left, known, new, (step_of_cons children order left).2.1⟩

/-- The loop ends where a bounded search has run out of pids. -/
theorem exists_drains {bound : Nat} (finished : (advance children bound s).queue.toList = []) :
    ∃ passes : List Pass, passes.length ≤ bound ∧
      Drains children s passes (advance children bound s) := by
  induction bound generalizing s with
  | zero => exact ⟨[], Nat.le_refl 0, .done (pass?_eq_none_iff.mpr finished)⟩
  | succ bound ih =>
    cases next : s.pass? children with
    | none =>
      rw [advance_of_empty children _ (pass?_eq_none_iff.mp next)]
      exact ⟨[], Nat.zero_le _, .done next⟩
    | some pass =>
      obtain ⟨passes, short, rest⟩ := ih finished
      exact ⟨pass :: passes, Nat.succ_le_succ short, .take next rest⟩

namespace Drains

theorem queue_end (drains : Drains children s passes t) : t.queue.toList = [] := by
  induction drains with
  | done idle => exact pass?_eq_none_iff.mp idle
  | take next rest ih => exact ih

/-- The loop is what the bounded search does when the bound is not too small. -/
theorem advance_eq (drains : Drains children s passes t) {bound : Nat}
    (enough : passes.length ≤ bound) : advance children bound s = t := by
  induction drains generalizing bound with
  | done idle => exact advance_of_empty children bound (pass?_eq_none_iff.mp idle)
  | take next rest ih =>
    cases bound with
    | zero => simp at enough
    | succ bound => exact ih (by simpa using enough)

theorem unique {passes' : List Pass} {t' : Search} (drains : Drains children s passes t)
    (drains' : Drains children s passes' t') : passes' = passes ∧ t' = t := by
  induction drains generalizing passes' t' with
  | done idle =>
    cases drains' with
    | done idle' => exact ⟨rfl, rfl⟩
    | take next' rest' => simp [idle] at next'
  | take next rest ih =>
    cases drains' with
    | done idle' => simp [idle'] at next
    | take next' rest' =>
      obtain ⟨rfl, rfl⟩ := ih rest'
      rw [next, Option.some.injEq] at next'
      rw [next']
      exact ⟨rfl, rfl⟩

/-- The pids leave the queue in the order in which they have entered it, and all of them do. -/
theorem queue_append_entered (drains : Drains children s passes t) :
    s.queue.toList ++ passes.flatMap (·.entered) = passes.map (·.taken) := by
  induction drains with
  | done idle => simp [pass?_eq_none_iff.mp idle]
  | take next rest ih =>
    obtain ⟨waiting, order, order'⟩ := queue_of_pass? next
    rw [order'] at ih
    simp [order, ← ih]

/-- A bounded search runs out of pids exactly when its bound is not too small. -/
theorem queue_advance_iff (drains : Drains children s passes t) {bound : Nat} :
    (advance children bound s).queue.toList = [] ↔ passes.length ≤ bound := by
  constructor
  · intro finished
    obtain ⟨passes', short, drains'⟩ := exists_drains finished
    rwa [(drains.unique drains').1] at short
  · intro enough
    rw [drains.advance_eq enough]
    exact drains.queue_end

variable (total : ∀ pid, ∀ child ∈ children pid, child ∈ table)

include total

theorem invariant (drains : Drains children s passes t) (inv : Invariant children table root s) :
    Invariant children table root t := by
  rw [← drains.advance_eq (Nat.le_refl passes.length)]
  exact inv.advance total passes.length

/-- Each pass adds one pid to those found, the one that it takes. -/
theorem keys_found (drains : Drains children s passes t) (inv : Invariant children table root s) :
    t.found.keys.Perm (passes.map (·.taken) ++ s.found.keys) := by
  induction drains with
  | done idle => exact .refl _
  | @take s t pass passes next rest ih =>
    obtain ⟨p, -, -, new, found⟩ := inv.of_pass? next
    have later := ih (inv.step total)
    -- The pid of this pass is new, so it stands in front of the keys that the rest started with.
    rw [found] at later
    have moved := (Members.keys_insert_perm p new).append_left (passes.map (·.taken))
    exact (later.trans moved).trans List.perm_middle

/-- The record that a pass takes is the one that the table had from the start. -/
theorem exists_record (drains : Drains children s passes t)
    (inv : Invariant children table root s) :
    ∀ pass ∈ passes, ∃ p, pass.record = some p ∧ table[pass.taken]? = some p := by
  induction drains with
  | done idle => simp
  | take next rest ih =>
    intro pass member
    rcases List.mem_cons.mp member with rfl | later
    · obtain ⟨p, record, known, -⟩ := inv.of_pass? next
      exact ⟨p, record, known⟩
    · exact ih (inv.step total) pass later

end Drains

end Search

/-- How the members of a subtree are found by a loop without a bound: in no passes when no record
has the root's pid. -/
inductive Builds (root : Pid) (records : List ProcessRecord) : List Pass → Members → Prop
  | absent (absent : root ∉ Members.ofList records) : Builds root records [] ∅
  | present {passes : List Pass} {s : Search} (listed : root ∈ Members.ofList records)
    (drains : Search.Drains (fun pid => (childIndex records)[pid]?.getD [])
      (Search.start root (Members.ofList records)) passes s) :
    Builds root records passes s.found

/-- The members found by a search that may take at most `bound` pids. -/
def subtreeWithin (bound : Nat) (root : Pid) (records : List ProcessRecord) : Members :=
  if root ∈ Members.ofList records then
    ((Search.start root (Members.ofList records)).advance
      (fun pid => (childIndex records)[pid]?.getD []) bound).found
  else ∅

variable {root : Pid} {records : List ProcessRecord} {passes passes' : List Pass}
  {members members' : Members}

theorem builds_of_drains {s : Search} (listed : root ∈ Members.ofList records)
    (drains : Search.Drains (childrenOf records) (Search.start root (Members.ofList records))
      passes s) : Builds root records passes s.found := by
  rw [← childIndex_eq_childrenOf] at drains
  exact .present listed drains

/-- The loop ends with the members of the subtree, and takes no more pids than there are. -/
theorem exists_builds (root : Pid) (records : List ProcessRecord) :
    ∃ passes, Builds root records passes (subtree root records) ∧
      passes.length ≤ (Members.ofList records).size := by
  by_cases listed : root ∈ Members.ofList records
  · have total : ∀ pid, ∀ child ∈ childrenOf records pid, child ∈ Members.ofList records :=
      childrenOf_mem_ofList
    have finished := Search.queue_advance_start total listed (Nat.le_refl _)
    obtain ⟨passes, short, drains⟩ := Search.exists_drains finished
    have same := drains.advance_eq (Nat.le_trans short (size_ofList_le records))
    refine ⟨passes, ?_, short⟩
    rw [subtree_of_mem listed, same]
    exact builds_of_drains listed drains
  · refine ⟨[], ?_, Nat.zero_le _⟩
    rw [subtree_of_not_mem listed]
    exact .absent listed

namespace Builds

theorem unique (builds : Builds root records passes members)
    (builds' : Builds root records passes' members') : passes' = passes ∧ members' = members := by
  cases builds with
  | absent absent =>
    cases builds' with
    | absent absent' => exact ⟨rfl, rfl⟩
    | present listed' drains' => exact absurd listed' absent
  | present listed drains =>
    cases builds' with
    | absent absent' => exact absurd listed absent'
    | present listed' drains' =>
      obtain ⟨rfl, rfl⟩ := drains.unique drains'
      exact ⟨rfl, rfl⟩

/-- The pids that are taken are those of the members, each once. -/
theorem taken_perm (builds : Builds root records passes members) :
    (passes.map (·.taken)).Perm members.keys := by
  cases builds with
  | absent absent => exact .refl _
  | present listed drains =>
    rw [childIndex_eq_childrenOf] at drains
    have keys := drains.keys_found childrenOf_mem_ofList (Search.invariant_start listed)
    have start : (Search.start root (Members.ofList records)).found.keys = [] := rfl
    rw [start, List.append_nil] at keys
    exact keys.symm

theorem length_eq (builds : Builds root records passes members) :
    passes.length = members.size := by
  rw [← Std.ExtTreeMap.length_keys, ← builds.taken_perm.length_eq, List.length_map]

theorem nodup_entered (builds : Builds root records passes members) :
    (root :: passes.flatMap (·.entered)).Nodup := by
  have taken := builds.taken_perm.nodup_iff.mpr Std.ExtTreeMap.nodup_keys
  cases builds with
  | absent absent => simp
  | present listed drains =>
    rw [← drains.queue_append_entered] at taken
    exact taken

/-- A pid that is taken still has its record in the table, and it becomes a member with it. -/
theorem exists_record (builds : Builds root records passes members) :
    ∀ pass ∈ passes, ∃ p, pass.record = some p ∧ members[pass.taken]? = some p := by
  intro pass isPass
  have member : pass.taken ∈ members := by
    rw [← Std.ExtTreeMap.mem_keys, ← builds.taken_perm.mem_iff]
    exact List.mem_map_of_mem isPass
  cases builds with
  | absent absent => simp at isPass
  | present listed drains =>
    rw [childIndex_eq_childrenOf] at drains
    have inv : Search.Invariant (childrenOf records) (Members.ofList records) root
      (Search.start root (Members.ofList records)) := Search.invariant_start listed
    obtain ⟨p, record, known⟩ := drains.exists_record childrenOf_mem_ofList inv pass isPass
    have kept := (drains.invariant childrenOf_mem_ofList inv).kept pass.taken member
    exact ⟨p, record, kept.trans known⟩

/-- A bounded search finds the same members exactly when it may take as many pids. -/
theorem subtreeWithin_eq_iff (builds : Builds root records passes members) {bound : Nat} :
    subtreeWithin bound root records = members ↔ passes.length ≤ bound := by
  have length := builds.length_eq
  cases builds with
  | absent absent => simp [subtreeWithin, absent]
  | present listed drains =>
    rw [subtreeWithin, if_pos listed]
    rw [childIndex_eq_childrenOf] at drains ⊢
    constructor
    · intro same
      by_cases finished : ((Search.start root (Members.ofList records)).advance
          (childrenOf records) bound).queue.toList = []
      · exact drains.queue_advance_iff.mp finished
      · -- A search that is still running has found as many records as it has taken pids.
        have size := (Search.invariant_start listed).size_found_advance childrenOf_mem_ofList bound
          finished
        have start : (Search.start root (Members.ofList records)).found.size = 0 := rfl
        rw [same] at size
        omega
    · intro enough
      rw [drains.advance_eq enough]

end Builds

/-- The loop ends, in exactly one way and with the members of the subtree.  No pid is put into the
queue twice, and each that is taken still has its record in the table, with which it becomes one
member.  So the loop takes as many pids as there are members, and the members are the same for
every bound that is not smaller than that, such as the number of different pids. -/
theorem exists_passes (root : Pid) (records : List ProcessRecord) :
    ∃ passes : List Pass,
      (∀ passes' members, Builds root records passes' members ↔
        passes' = passes ∧ members = subtree root records) ∧
      (root :: passes.flatMap (·.entered)).Nodup ∧
      (∀ pass ∈ passes, ∃ p, pass.record = some p ∧
        (subtree root records)[pass.taken]? = some p) ∧
      (passes.map (·.taken)).Perm (subtree root records).keys ∧
      passes.length = (subtree root records).size ∧
      passes.length ≤ (records.map (·.pid)).dedup.length ∧
      ∀ bound, subtreeWithin bound root records = subtree root records ↔
        passes.length ≤ bound := by
  obtain ⟨passes, builds, short⟩ := exists_builds root records
  rw [Members.size_ofList] at short
  refine ⟨passes, ?_, builds.nodup_entered, builds.exists_record, builds.taken_perm,
    builds.length_eq, short, fun bound => builds.subtreeWithin_eq_iff⟩
  intro passes' members
  constructor
  · intro builds'
    exact builds.unique builds'
  · rintro ⟨rfl, rfl⟩
    exact builds

end ProcessAccounting
