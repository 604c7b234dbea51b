import ProcessAccounting.Proofs.Monitor.Run
import Mathlib.Order.Bounds.Basic

/-!
# Ages over a run

The age of a member counts the successful polls in a row that have seen it before this
one.  Failed polls neither break the row nor make it longer.
-/

namespace ProcessAccounting

/-- The tree of `root` among the records holds a process with that pid and start time. -/
def Sighted (root pid : Pid) (start : Option UInt64) (records : List ProcessRecord) : Prop :=
  ∃ p ∈ (subtree root records)[pid]?, p.startTime = start

instance (root pid : Pid) (start : Option UInt64) (records : List ProcessRecord) :
    Decidable (Sighted root pid start records) :=
  inferInstanceAs (Decidable (∃ p ∈ (subtree root records)[pid]?, p.startTime = start))

/-- The last `n` readings have all seen the process. -/
def UnbrokenRun (root pid : Pid) (start : Option UInt64) (history : List (List ProcessRecord))
    (n : Nat) : Prop :=
  ∃ recent, recent <:+ history ∧ recent.length = n ∧
    ∀ records ∈ recent, Sighted root pid start records

/-- How many of the latest readings in a row have seen the process. -/
def streak (root pid : Pid) (start : Option UInt64) (history : List (List ProcessRecord)) : Nat :=
  history.foldl (fun n records => if Sighted root pid start records then n + 1 else 0) 0

variable {root pid : Pid} {start : Option UInt64}

theorem streak_append_of_sighted (history : List (List ProcessRecord))
    {records : List ProcessRecord} (seen : Sighted root pid start records) :
    streak root pid start (history ++ [records]) = streak root pid start history + 1 := by
  rw [streak, List.foldl_append]
  exact if_pos seen

theorem streak_append_of_not_sighted (history : List (List ProcessRecord))
    {records : List ProcessRecord} (unseen : ¬ Sighted root pid start records) :
    streak root pid start (history ++ [records]) = 0 := by
  rw [streak, List.foldl_append]
  exact if_neg unseen

/-- The streak is the length of the longest unbroken run. -/
theorem isGreatest_streak (history : List (List ProcessRecord)) :
    IsGreatest {n | UnbrokenRun root pid start history n} (streak root pid start history) := by
  induction history using List.reverseRecOn with
  | nil =>
    refine ⟨⟨[], List.suffix_rfl, rfl, by simp⟩, ?_⟩
    rintro n ⟨recent, suffix, rfl, -⟩
    rw [List.suffix_nil.mp suffix]
    exact Nat.zero_le _
  | append_singleton history records ih =>
    obtain ⟨⟨recent, suffix, length, all⟩, greatest⟩ := ih
    by_cases seen : Sighted root pid start records
    · rw [streak_append_of_sighted history seen]
      constructor
      · refine ⟨recent ++ [records], ?_, by simp [length], ?_⟩
        · obtain ⟨front, rfl⟩ := suffix
          exact ⟨front, by simp⟩
        · intro r member
          rcases List.mem_append.mp member with member | member
          · exact all r member
          · rwa [List.mem_singleton.mp member]
      · rintro n ⟨longer, suffix', rfl, all'⟩
        rcases List.suffix_concat_iff.mp suffix' with rfl | ⟨shorter, rfl, inner⟩
        · exact Nat.zero_le _
        · have le := greatest ⟨shorter, inner, rfl, fun r member =>
            all' r (List.mem_append_left _ member)⟩
          rw [List.length_append]
          exact Nat.succ_le_succ le
    · rw [streak_append_of_not_sighted history seen]
      constructor
      · exact ⟨[], List.nil_suffix, rfl, by simp⟩
      · rintro n ⟨longer, suffix', rfl, all'⟩
        rcases List.suffix_concat_iff.mp suffix' with rfl | ⟨shorter, rfl, -⟩
        · exact Nat.le_refl _
        · exact absurd (all' records (by simp)) seen

/-- A member is kept exactly when the last reading has seen it. -/
theorem streak_pos_iff (history : List (List ProcessRecord)) :
    0 < streak root pid start history ↔
      ∃ p, (agedMembers root history)[pid]? = some p ∧ p.startTime = start := by
  cases history using List.reverseRecOn with
  | nil =>
    constructor
    · intro pos
      exact absurd pos (Nat.lt_irrefl 0)
    · rintro ⟨p, found, -⟩
      rw [agedMembers, List.foldl_nil, Std.ExtTreeMap.getElem?_empty] at found
      cases found
  | append_singleton history records =>
    have kept : (∃ p, (agedMembers root (history ++ [records]))[pid]? = some p ∧
        p.startTime = start) ↔ Sighted root pid start records := by
      rw [agedMembers_append, getElem?_carryAges]
      constructor
      · rintro ⟨p, found, same⟩
        obtain ⟨q, inSubtree, rfl⟩ := Option.map_eq_some_iff.mp found
        exact ⟨q, inSubtree, same⟩
      · rintro ⟨q, inSubtree, same⟩
        refine ⟨{ q with age := carriedAge (agedMembers root history) pid q }, ?_, same⟩
        rw [inSubtree]
        rfl
    rw [kept]
    by_cases seen : Sighted root pid start records
    · rw [streak_append_of_sighted history seen]
      exact ⟨fun _ => seen, fun _ => Nat.succ_pos _⟩
    · rw [streak_append_of_not_sighted history seen]
      exact ⟨fun pos => absurd pos (Nat.lt_irrefl 0), fun h => absurd h seen⟩

/-- The age that a member is kept with is one less than its streak. -/
theorem age_of_getElem?_agedMembers (history : List (List ProcessRecord)) {p : ProcessRecord}
    (found : (agedMembers root history)[pid]? = some p) :
    p.age.toNat = min 4294967295 (streak root pid p.startTime history - 1) := by
  induction history using List.reverseRecOn generalizing p with
  | nil =>
    rw [agedMembers, List.foldl_nil, Std.ExtTreeMap.getElem?_empty] at found
    cases found
  | append_singleton history records ih =>
    rw [agedMembers_append, getElem?_carryAges, Option.map_eq_some_iff] at found
    obtain ⟨q, inSubtree, rfl⟩ := found
    have seen : Sighted root pid q.startTime records := ⟨q, inSubtree, rfl⟩
    show (carriedAge (agedMembers root history) pid q).toNat = _
    rw [streak_append_of_sighted history seen, Nat.add_sub_cancel, carriedAge]
    cases before : (agedMembers root history)[pid]? with
    | none =>
      -- The process was not kept before, so its streak had ended.
      have ended : streak root pid q.startTime history = 0 := by
        by_contra running
        obtain ⟨old, kept, -⟩ := (streak_pos_iff history).mp (Nat.pos_of_ne_zero running)
        rw [before] at kept
        cases kept
      rw [ended]
      rfl
    | some old =>
      have samePid : old.pid = q.pid :=
        (pid_of_getElem?_agedMembers before).trans (of_getElem?_subtree inSubtree).2.symm
      by_cases sameStart : old.startTime = q.startTime
      · have same : old.IsSame q := ⟨samePid, sameStart⟩
        have running : 0 < streak root pid q.startTime history :=
          (streak_pos_iff history).mpr ⟨old, before, sameStart⟩
        have age := ih before
        rw [sameStart] at age
        simp only [if_pos same]
        rw [Saturating.toNat_next, age]
        omega
      · have other : ¬ old.IsSame q := fun same => sameStart same.2
        have ended : streak root pid q.startTime history = 0 := by
          by_contra running
          obtain ⟨kept, found, start⟩ := (streak_pos_iff history).mp (Nat.pos_of_ne_zero running)
          rw [before, Option.some.injEq] at found
          subst found
          exact sameStart start
        simp only [if_neg other]
        rw [ended]
        rfl

/-- After every successful poll, the age of a member is one less than the length of the
longest unbroken run of successful polls, this one included, that saw the process. -/
theorem age_of_member (units : Units) (now : Instant) (polls : List Poll) {poll : Poll}
    {records : List ProcessRecord} (ok : poll.outcome = .ok records) {p : ProcessRecord}
    (member : ((Monitor.new root units now).run (polls ++ [poll])).current.get? pid = some p) :
    ∃ length, 1 ≤ length ∧ p.age.toNat = min (UInt32.size - 1) (length - 1) ∧
      IsGreatest {n | UnbrokenRun root pid p.startTime (successes (polls ++ [poll])) n} length := by
  rw [Snapshot.get?, Monitor.members_run_of_ok root units now polls ok] at member
  refine ⟨streak root pid p.startTime (successes (polls ++ [poll])), ?_, ?_, ?_⟩
  · exact (streak_pos_iff _).mpr ⟨p, member, rfl⟩
  · exact age_of_getElem?_agedMembers _ member
  · exact isGreatest_streak _

theorem age_of_survivor :
    let units : Units := { capabilities := {}, tickRate := none }
    let sighting (start : UInt64) : Poll := {
      units, outcome := .ok [{ pid := 1, startTime := some start, age := 7 }], takenAt := .zero }
    let failure : Poll := {
      units, outcome := .error { cause := .sourceUnavailable "/proc" "" }, takenAt := .zero }
    let before := [sighting 4, sighting 5, failure]
    ∃ p, ((Monitor.new 1 units .zero).run (before ++ [sighting 5])).current.get? 1 = some p ∧
      p.age = 1 ∧ ∃ length, p.age.toNat = min (UInt32.size - 1) (length - 1) ∧
        IsGreatest {n | UnbrokenRun 1 1 p.startTime (successes (before ++ [sighting 5])) n}
          length := by
  intro units sighting failure before
  have member : ((Monitor.new 1 units .zero).run (before ++ [sighting 5])).current.get? 1 =
      some { pid := 1, startTime := some 5, age := 1 } := by
    decide +kernel
  obtain ⟨length, -, age, longest⟩ := age_of_member units .zero before rfl member
  exact ⟨_, member, rfl, length, age, longest⟩

end ProcessAccounting
