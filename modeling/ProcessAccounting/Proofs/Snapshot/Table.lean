import ProcessAccounting.Snapshot.Listing
import ProcessAccounting.Proofs.Snapshot.Conservation
import ProcessAccounting.Proofs.Text.Lines
import Mathlib.Data.List.Forall2

/-!
# The lines of a table

A row of the table shows two texts that the process decides, its name and its command line.  Line
breaks in them are not replaced, and each makes one more line of the row.
-/

namespace ProcessAccounting

theorem break_notMem_toDigits (n : Nat) : '\n' ∉ Nat.toDigits 10 n := by
  intro member
  have digit := Nat.isDigit_of_mem_toDigits (by decide) (Nat.le_refl 10) member
  cases digit

/-- How many line breaks there are in the two texts of a process. -/
def ProcessRecord.breaks (p : ProcessRecord) : Nat :=
  p.name.toList.count '\n' + p.commandLine.toList.count '\n'

theorem ProcessRecord.breaks_eq_zero_iff {p : ProcessRecord} :
    p.breaks = 0 ↔ '\n' ∉ p.name.toList ∧ '\n' ∉ p.commandLine.toList := by
  rw [breaks, Nat.add_eq_zero_iff, List.count_eq_zero, List.count_eq_zero]

namespace Snapshot

variable {s : Snapshot}

theorem pids_ascending (s : Snapshot) : s.pids.Pairwise (· < ·) := by
  have ordered := Std.ExtTreeMap.ordered_keys (t := s.members)
  exact ordered.imp fun lt => Std.compare_eq_lt.mp lt

theorem length_processes (s : Snapshot) : s.processes.length = s.size := by
  rw [processes, Members.values_eq, List.length_map]
  exact Std.ExtTreeMap.length_toList

theorem Keyed.pids_eq (keyed : s.Keyed) : s.pids = s.processes.map (·.pid) := by
  have by_key := Members.map_values_eq keyed
  rw [List.map_id'] at by_key
  exact by_key.symm

/-- The header without the line break at its end. -/
def headerLine : List Char := header.toList.dropLast

/-- The row of a process without the line break at its end. -/
def rowLine (s : Snapshot) (p : ProcessRecord) : List Char := (s.row p).toList.dropLast

/-- How the row of a pid begins. -/
def rowStart (pid : Pid) : List Char := '\t' :: '|' :: '-' :: ' ' :: pid.toNat.repr.toList ++ [' ']

theorem header_toList : header.toList = headerLine ++ ['\n'] ∧ '\n' ∉ headerLine := by
  decide +kernel

/-- A row begins with the pid and is ended by a line break.  All others in it are those of the
two texts. -/
theorem row_toList (s : Snapshot) (p : ProcessRecord) :
    (s.row p).toList = s.rowLine p ++ ['\n'] ∧ rowStart p.pid <+: s.rowLine p ∧
      (s.rowLine p).count '\n' = p.breaks := by
  obtain ⟨line, ended, start, counted⟩ : ∃ line, (s.row p).toList = line ++ ['\n'] ∧
      rowStart p.pid <+: line ∧ line.count '\n' = p.breaks := by
    refine ⟨_, String.toList_append, ?_, ?_⟩
    · simp [rowStart]
    · simp [List.count_eq_zero_of_not_mem (break_notMem_toDigits _), ProcessRecord.breaks]
  have same : s.rowLine p = line := by simp [rowLine, ended]
  rw [same]
  exact ⟨ended, start, counted⟩

/-- The lines of a row are as many as there are breaks in it, and one.  The first of them begins
with the pid. -/
theorem pieces_rowLine (s : Snapshot) (p : ProcessRecord) :
    (Text.pieces Text.isBreak (s.rowLine p)).length = p.breaks + 1 ∧
      ∃ first others, Text.pieces Text.isBreak (s.rowLine p) = first :: others ∧
        rowStart p.pid <+: first := by
  obtain ⟨-, ⟨rest, begins⟩, counted⟩ := s.row_toList p
  have unbroken : '\n' ∉ rowStart p.pid := by simp [rowStart, break_notMem_toDigits]
  constructor
  · rw [Text.length_pieces, ← counted]
    rfl
  · obtain ⟨first, others, cut⟩ :=
      Text.pieces_append_of_solid Text.isBreak (Text.isBreak_of_notMem unbroken) rest
    rw [← begins, cut]
    exact ⟨_, others, rfl, List.prefix_append _ _⟩

/-- Without breaks in its texts, a row is one line. -/
theorem pieces_rowLine_of_unbroken {p : ProcessRecord} (unbroken : p.breaks = 0) :
    Text.pieces Text.isBreak (s.rowLine p) = [s.rowLine p] := by
  have counted := (s.row_toList p).2.2
  rw [unbroken, List.count_eq_zero] at counted
  exact Text.pieces_eq_singleton _ _ (Text.isBreak_of_notMem counted)

theorem lines_rows (s : Snapshot) (ps : List ProcessRecord) :
    Text.lines (ps.flatMap fun p => (s.row p).toList) =
      ps.flatMap fun p => Text.pieces Text.isBreak (s.rowLine p) := by
  induction ps with
  | nil => rfl
  | cons p ps ih =>
    rw [List.flatMap_cons, (s.row_toList p).1, List.append_assoc, List.singleton_append,
      Text.lines_append_break, ih, List.flatMap_cons]

/-- The lines of a table are the header and those of the rows. -/
theorem lines_table (s : Snapshot) :
    Text.lines s.table.toList =
      headerLine :: s.processes.flatMap fun p => Text.pieces Text.isBreak (s.rowLine p) := by
  obtain ⟨ended, unbroken⟩ := header_toList
  have parts : s.table.toList =
      headerLine ++ '\n' :: s.processes.flatMap fun p => (s.row p).toList := by
    rw [table, String.toList_append, ended, String.toList_join, List.flatMap_map]
    simp
  rw [parts, Text.lines_append_break, lines_rows,
    Text.pieces_eq_singleton _ _ (Text.isBreak_of_notMem unbroken)]
  rfl

/-- Each line break in a name or a command line makes one more line. -/
theorem length_lines_table (s : Snapshot) :
    (Text.lines s.table.toList).length = 1 + s.size + (s.processes.map (·.breaks)).sum := by
  have each (p : ProcessRecord) := (s.pieces_rowLine p).1
  have total : (s.processes.map fun p => p.breaks + 1).sum =
      (s.processes.map (·.breaks)).sum + s.size := by
    rw [List.sum_map_add, ← length_processes]
    simp
  rw [lines_table, List.length_cons, List.length_flatMap]
  simp only [each, total]
  omega

/-- Lines that begin with the pids of the members, one for each member and in ascending order. -/
def MemberLines (s : Snapshot) (found : List (List Char)) : Prop :=
  List.Forall₂ (fun pid line => rowStart pid <+: line) s.pids found

/-- Among the lines of some rows there is in their order one for each row that begins with its
pid. -/
theorem exists_sublist_rows (s : Snapshot) (ps : List ProcessRecord) :
    ∃ found, List.Forall₂ (fun pid line => rowStart pid <+: line) (ps.map (·.pid)) found ∧
      found.Sublist (ps.flatMap fun p => Text.pieces Text.isBreak (s.rowLine p)) := by
  induction ps with
  | nil => exact ⟨[], .nil, .slnil⟩
  | cons p ps ih =>
    obtain ⟨found, aligned, kept⟩ := ih
    obtain ⟨-, first, others, cut, begins⟩ := s.pieces_rowLine p
    refine ⟨first :: found, .cons begins aligned, ?_⟩
    rw [List.flatMap_cons, cut, List.cons_append]
    exact (kept.trans (List.sublist_append_right others _)).cons_cons first

/-- Whatever the texts of the members are, each member has a line of its own, and these lines
stand in order.  Others may stand between them. -/
theorem exists_memberLines (keyed : s.Keyed) :
    ∃ found, s.MemberLines found ∧ (headerLine :: found).Sublist (Text.lines s.table.toList) := by
  obtain ⟨found, aligned, kept⟩ := s.exists_sublist_rows s.processes
  refine ⟨found, ?_, ?_⟩
  · rwa [MemberLines, keyed.pids_eq]
  · rw [lines_table]
    exact kept.cons_cons headerLine

/-- The table is the header and one line for each member, which begins with its pid, in
ascending order of the pids. -/
def Tabular (s : Snapshot) : Prop :=
  ∃ found, s.MemberLines found ∧ Text.lines s.table.toList = headerLine :: found

/-- The members can be read off the table when no text of theirs breaks a line, and only then. -/
theorem tabular_iff (keyed : s.Keyed) : s.Tabular ↔ ∀ p ∈ s.processes, p.breaks = 0 := by
  constructor
  · rintro ⟨found, aligned, cut⟩
    have same := aligned.length_eq
    have counted := s.length_lines_table
    rw [keyed.pids_eq, List.length_map, length_processes] at same
    rw [cut, List.length_cons, ← same] at counted
    have none_left : (s.processes.map (·.breaks)).sum = 0 := by omega
    rw [List.sum_eq_zero_iff_forall_eq_nat] at none_left
    exact fun p member => none_left _ (List.mem_map_of_mem member)
  · intro unbroken
    have rows : s.processes.flatMap (fun p => Text.pieces Text.isBreak (s.rowLine p)) =
        s.processes.map s.rowLine := by
      rw [List.map_eq_flatMap]
      exact List.flatMap_congr fun p member => pieces_rowLine_of_unbroken (unbroken p member)
    refine ⟨s.processes.map s.rowLine, ?_, by rw [lines_table, rows]⟩
    rw [MemberLines, keyed.pids_eq, List.forall₂_map_left_iff,
      List.forall₂_map_right_iff, List.forall₂_same]
    exact fun p _ => (s.row_toList p).2.1

end Snapshot

end ProcessAccounting
