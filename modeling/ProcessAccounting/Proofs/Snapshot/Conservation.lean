import ProcessAccounting.Snapshot.Usage
import ProcessAccounting.Proofs.Members
import ProcessAccounting.Proofs.Subtree
import Mathlib.Algebra.BigOperators.Group.Finset.Basic
import Mathlib.Algebra.GroupWithZero.Nat
import Mathlib.Algebra.Order.BigOperators.Group.List
import Mathlib.Algebra.Order.Group.Nat
import Mathlib.Algebra.Ring.Int.Defs

/-!
# Every tick is counted once

The ticks that a snapshot counts since an earlier one, together with those of the members that
have gone since, make up for the difference between the totals of the two.  Along a sequence of
snapshots the differences add up: `sum_ticksSince`.
-/

namespace ProcessAccounting

theorem Saturating.total_eq_sum (words : List UInt64) :
    total words = (words.map UInt64.toNat).sum := by
  induction words with
  | nil => rfl
  | cons w words ih => rw [total_cons, ih, List.map_cons, List.sum_cons]

namespace Members

/-- What is counted for the record under a pid, which is nothing when there is none. -/
def amount (members : Members) (f : ProcessRecord → Nat) (pid : Pid) : Nat :=
  (members[pid]?.map f).getD 0

/-- A sum over all records of a table is one over any pids among which are all of its keys. -/
theorem sum_values (members : Members) (f : ProcessRecord → Nat) {pids : Finset Pid}
    (all : ∀ pid ∈ members, pid ∈ pids) :
    (members.values.map f).sum = ∑ pid ∈ pids, members.amount f pid := by
  have by_key : members.values.map f = members.keys.map (members.amount f) := by
    apply map_values_eq
    intro key p found
    simp [amount, found]
  rw [by_key, ← List.sum_toFinset _ Std.ExtTreeMap.nodup_keys]
  apply Finset.sum_subset
  · intro pid key
    exact all pid (Std.ExtTreeMap.mem_keys.mp (List.mem_toFinset.mp key))
  · intro pid _ other
    have absent : pid ∉ members := fun member =>
      other (List.mem_toFinset.mpr (Std.ExtTreeMap.mem_keys.mpr member))
    simp [amount, Std.ExtTreeMap.getElem?_eq_none absent]

end Members

namespace Snapshot

/-- Every member is stored under its own pid. -/
def Keyed (s : Snapshot) : Prop :=
  ∀ (key : Pid) (p : ProcessRecord), s.get? key = some p → p.pid = key

theorem keyed_empty (root : Pid) (units : Units) (takenAt : Instant) :
    (empty root units takenAt).Keyed := by
  intro key p found
  simp [empty, get?] at found

theorem keyed_refreshed (s : Snapshot) (records : List ProcessRecord) (units : Units)
    (takenAt : Instant) : (s.refreshed records units takenAt).Keyed := by
  intro key p found
  rw [get?, refreshed, getElem?_carryAges, Option.map_eq_some_iff] at found
  obtain ⟨q, inSubtree, rfl⟩ := found
  exact (of_getElem?_subtree inSubtree).2

/-- The exact sum of the ticks of all members. -/
def totalTicks (s : Snapshot) : Nat := Saturating.total (s.processes.map (·.cpuTicks))

/-- No member of the snapshot is the same process. -/
def Lacks (s : Snapshot) (p : ProcessRecord) : Prop := ∀ q ∈ s.processes, ¬ p.IsSame q

instance (s : Snapshot) (p : ProcessRecord) : Decidable (s.Lacks p) :=
  inferInstanceAs (Decidable (∀ q ∈ s.processes, ¬ p.IsSame q))

/-- The ticks of those members that are members of the next snapshot no more. -/
def departedTicks (s next : Snapshot) : Nat :=
  Saturating.total ((s.processes.filter fun p => next.Lacks p).map (·.cpuTicks))

/-- No process that is a member of both snapshots has fewer ticks in the later one. -/
def TicksGrow (s next : Snapshot) : Prop :=
  ∀ p ∈ s.processes, ∀ q ∈ next.processes, p.IsSame q → p.cpuTicks ≤ q.cpuTicks

instance (s next : Snapshot) : Decidable (s.TicksGrow next) :=
  inferInstanceAs (Decidable (∀ p ∈ s.processes, ∀ q ∈ next.processes, _ → _))

theorem mem_processes_of_get? {s : Snapshot} {key : Pid} {p : ProcessRecord}
    (found : s.get? key = some p) : p ∈ s.processes :=
  Members.mem_values_iff.mpr ⟨key, found⟩

/-- In a keyed snapshot, a process is a member if it is the one under its own pid. -/
theorem Keyed.get?_of_mem {s : Snapshot} (keyed : s.Keyed) {p : ProcessRecord}
    (member : p ∈ s.processes) : s.get? p.pid = some p := by
  obtain ⟨key, found⟩ := Members.mem_values_iff.mp member
  rwa [keyed key p found]

theorem ticksOf_le (earlier : Snapshot) (p : ProcessRecord) :
    (earlier.ticksOf p).toNat ≤ p.cpuTicks.toNat := by
  unfold ticksOf
  split
  · split
    · rw [Saturating.toNat_sub]
      exact Nat.sub_le _ _
    · exact Nat.le_refl _
  · exact Nat.le_refl _

section Step

variable {s next : Snapshot}

/-- What a pid counts for since the earlier snapshot, and what has gone from it, make up for
the difference between what it counted for then and what it counts for now. -/
theorem amount_ticksOf (keyed : s.Keyed) (keyed_next : next.Keyed) (grow : s.TicksGrow next)
    (pid : Pid) :
    next.members.amount (fun q => (s.ticksOf q).toNat) pid +
        s.members.amount (fun p => p.cpuTicks.toNat) pid =
      next.members.amount (fun q => q.cpuTicks.toNat) pid +
        s.members.amount (fun p => if next.Lacks p then p.cpuTicks.toNat else 0) pid := by
  unfold Members.amount
  cases before : s.members[pid]? with
  | none =>
    cases after : next.members[pid]? with
    | none => rfl
    | some q =>
      have samePid : q.pid = pid := keyed_next pid q after
      have absent : s.get? q.pid = none := by rw [samePid]; exact before
      simp [ticksOf, absent]
  | some p =>
    have samePid : p.pid = pid := keyed pid p before
    -- Only the member under its pid can be the same process.
    have lacks_unless (q : ProcessRecord) (member : q ∈ next.processes) (same : p.IsSame q) :
        next.members[pid]? = some q := by
      rw [← samePid, same.1]
      exact keyed_next.get?_of_mem member
    cases after : next.members[pid]? with
    | none =>
      have lacks : next.Lacks p := by
        intro q member same
        rw [lacks_unless q member same] at after
        cases after
      simp [lacks]
    | some q =>
      have samePid' : q.pid = pid := keyed_next pid q after
      have known : s.get? q.pid = some p := by rw [samePid']; exact before
      by_cases same : p.IsSame q
      · have member := mem_processes_of_get? after
        have stays : ¬ next.Lacks p := fun lacks => lacks q member same
        have grows : p.cpuTicks.toNat ≤ q.cpuTicks.toNat := UInt64.le_iff_toNat_le.mp
          (grow p (mem_processes_of_get? before) q member same)
        simp [ticksOf, known, same, stays, Saturating.toNat_sub, Nat.sub_add_cancel grows]
      · have lacks : next.Lacks p := by
          intro q' member same'
          rw [lacks_unless q' member same', Option.some.injEq] at after
          rw [after] at same'
          exact same same'
        simp [ticksOf, known, same, lacks]

theorem totalTicks_eq_sum {pids : Finset Pid} (all : ∀ pid ∈ s.members, pid ∈ pids) :
    s.totalTicks = ∑ pid ∈ pids, s.members.amount (fun p => p.cpuTicks.toNat) pid := by
  rw [totalTicks, Saturating.total_eq_sum, List.map_map, ← Members.sum_values _ _ all]
  rfl

theorem departedTicks_eq_sum {pids : Finset Pid} (all : ∀ pid ∈ s.members, pid ∈ pids) :
    s.departedTicks next = ∑ pid ∈ pids,
      s.members.amount (fun p => if next.Lacks p then p.cpuTicks.toNat else 0) pid := by
  rw [← Members.sum_values _ _ all, List.sum_map_ite, departedTicks, Saturating.total_eq_sum,
    List.map_map]
  simp [processes, Function.comp_def]

/-- As long as the total fits in a word, so do the ticks since an earlier snapshot, and none
are cut off. -/
theorem ticksSince_eq_sum (fits : next.totalTicks < UInt64.size) {pids : Finset Pid}
    (all : ∀ pid ∈ next.members, pid ∈ pids) :
    (next.ticksSince s).toNat =
      ∑ pid ∈ pids, next.members.amount (fun q => (s.ticksOf q).toNat) pid := by
  have exact_sum : Saturating.total (next.processes.map s.ticksOf) =
      (next.processes.map fun q => (s.ticksOf q).toNat).sum := by
    rw [Saturating.total_eq_sum, List.map_map]
    rfl
  have le : Saturating.total (next.processes.map s.ticksOf) ≤ next.totalTicks := by
    rw [exact_sum, totalTicks, Saturating.total_eq_sum, List.map_map]
    apply List.sum_le_sum
    intro q _
    exact s.ticksOf_le q
  rw [ticksSince, Saturating.toNat_sum, Nat.min_eq_right, exact_sum]
  · exact Members.sum_values _ _ all
  · simp only [UInt64.size, Saturating.greatest] at *
    omega

/-- The law for one step: the ticks counted since a snapshot and the total then are the total
now and the ticks that have gone. -/
theorem ticksSince_add_totalTicks (keyed : s.Keyed) (keyed_next : next.Keyed)
    (grow : s.TicksGrow next) (fits : next.totalTicks < UInt64.size) :
    (next.ticksSince s).toNat + s.totalTicks = next.totalTicks + s.departedTicks next := by
  let pids : Finset Pid := s.members.keys.toFinset ∪ next.members.keys.toFinset
  have all : ∀ pid ∈ s.members, pid ∈ pids := by
    intro pid member
    simp [pids, member]
  have all_next : ∀ pid ∈ next.members, pid ∈ pids := by
    intro pid member
    simp [pids, member]
  rw [ticksSince_eq_sum fits all_next, totalTicks_eq_sum all, totalTicks_eq_sum all_next,
    departedTicks_eq_sum all, ← Finset.sum_add_distrib, ← Finset.sum_add_distrib]
  apply Finset.sum_congr rfl
  intro pid _
  exact amount_ticksOf keyed keyed_next grow pid

end Step

/-- The next snapshot is made from this one and some reading of all processes. -/
def Follows (s next : Snapshot) : Prop :=
  ∃ records units takenAt, next = s.refreshed records units takenAt

/-- Each snapshot of a sequence together with the one after it. -/
def steps (sequence : List Snapshot) : List (Snapshot × Snapshot) := sequence.zip sequence.tail

/-- Every tick is counted once.  Along a sequence of snapshots, each made from the one before,
whose totals fit in a word and in which no process loses ticks, the ticks counted from one to
the next sum up to the increase of the total and the ticks of all members that have gone. -/
theorem sum_ticksSince (first : Snapshot) (later : List Snapshot) (keyed : first.Keyed)
    (made : List.IsChain Follows (first :: later))
    (grow : List.IsChain TicksGrow (first :: later))
    (fits : ∀ s ∈ first :: later, s.totalTicks < UInt64.size) :
    ((steps (first :: later)).map fun (s, next) => ((next.ticksSince s).toNat : Int)).sum =
      ((later.getLast?.getD first).totalTicks : Int) - first.totalTicks +
        ((steps (first :: later)).map fun (s, next) => (s.departedTicks next : Int)).sum := by
  induction later generalizing first with
  | nil => simp [steps]
  | cons second later ih =>
    obtain ⟨follows, made⟩ := List.isChain_cons_cons.mp made
    obtain ⟨grows, grow⟩ := List.isChain_cons_cons.mp grow
    have keyed' : second.Keyed := by
      obtain ⟨records, units, takenAt, rfl⟩ := follows
      exact keyed_refreshed first records units takenAt
    have fits' : ∀ s ∈ second :: later, s.totalTicks < UInt64.size :=
      fun s member => fits s (List.mem_cons_of_mem first member)
    have rest := ih second keyed' made grow fits'
    have step := ticksSince_add_totalTicks keyed keyed' grows (fits' second List.mem_cons_self)
    have split : steps (first :: second :: later) = (first, second) :: steps (second :: later) :=
      rfl
    have last : (second :: later).getLast?.getD first = later.getLast?.getD second := by
      rw [List.getLast?_cons]
      rfl
    rw [split, last, List.map_cons, List.map_cons, List.sum_cons, List.sum_cons, rest]
    dsimp only
    omega

theorem sum_ticksSince_of_reuse :
    let units : Units := { capabilities := {}, tickRate := some 100 }
    let first := empty 7 units .zero
    let second := first.refreshed [{ pid := 7, startTime := some 5, userTicks := 400 }] units
      (.ofSeconds 1)
    let third := second.refreshed [
      { pid := 7, startTime := some 9, userTicks := 60, systemTicks := 40 },
      { pid := 8, parent := 7, startTime := some 9, userTicks := 50 }] units (.ofSeconds 2)
    second.totalTicks = 400 ∧ third.totalTicks = 150 ∧ second.departedTicks third = 400 ∧
    ((steps [first, second, third]).map
      fun (s, next) => ((next.ticksSince s).toNat : Int)).sum = 550 := by
  intro units first second third
  have made : List.IsChain Follows [first, second, third] :=
    .cons_cons ⟨_, units, .ofSeconds 1, rfl⟩ (.cons_cons ⟨_, units, .ofSeconds 2, rfl⟩ (.singleton third))
  have grow : List.IsChain TicksGrow [first, second, third] :=
    .cons_cons (by decide +kernel) (.cons_cons (by decide +kernel) (.singleton third))
  have fits : ∀ s ∈ [first, second, third], s.totalTicks < UInt64.size := by decide +kernel
  have law := sum_ticksSince first [second, third] (keyed_empty 7 units .zero) made grow fits
  refine ⟨by decide +kernel, by decide +kernel, by decide +kernel, law.trans ?_⟩
  decide +kernel

end Snapshot

end ProcessAccounting
