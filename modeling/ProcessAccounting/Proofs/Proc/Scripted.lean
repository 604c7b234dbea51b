import ProcessAccounting.Proofs.Proc.Scan
import ProcessAccounting.Proofs.Proc.StatFile

/-!
# Directories made to order

For every listing there is a directory that shows it and whose stat files answer as they are
told to.
-/

namespace ProcessAccounting.Proc

theorem entryName_injective {a b : Pid} (same : entryName a = entryName b) : a = b := by
  have read := readUInt32_decode_entryName a
  rw [same, readUInt32_decode_entryName b, Except.ok.injEq] at read
  exact read.symm

/-- The files of a directory in which the answers depend on the name of the entry alone. -/
theorem Directory.responses_of_scripted {d : Directory} {file : FileKind}
    {answers : List UInt8 → List Response} {pid : Pid}
    (scripted : ∀ entry ∈ d.entries, entry.responses file = answers entry.name)
    (present : ∃ entry ∈ d.entries, entry.name = entryName pid) :
    d.responses pid file = answers (entryName pid) := by
  have all : ∀ given ∈ (d.entries.filter (·.name == entryName pid)).map (·.responses file),
      given = answers (entryName pid) := by
    intro given member
    obtain ⟨entry, kept, rfl⟩ := List.mem_map.mp member
    obtain ⟨listed, named⟩ := List.mem_filter.mp kept
    rw [scripted entry listed, eq_of_beq named]
  have some_given : answers (entryName pid) ∈
      (d.entries.filter (·.name == entryName pid)).map (·.responses file) := by
    obtain ⟨entry, listed, named⟩ := present
    refine List.mem_map.mpr ⟨entry, List.mem_filter.mpr ⟨listed, beq_iff_eq.mpr named⟩, ?_⟩
    rw [scripted entry listed, named]
  unfold Directory.responses
  cases first : List.find? (!·.isEmpty)
      ((d.entries.filter (·.name == entryName pid)).map (·.responses file)) with
  | some given => exact all given (List.mem_of_find?_eq_some first)
  | none =>
    have empty := List.find?_eq_none.mp first _ some_given
    simp only [Bool.not_eq_true', Bool.not_eq_false, List.isEmpty_iff] at empty
    exact empty.symm

/-- A directory with a listing.  The entries with a name in `hidden` are there as well, listed
or not. -/
def Directory.scripted (answers : List UInt8 → List Response) (hidden names : List (List UInt8)) :
    Directory where
  entries :=
    names.map (fun name => { name, stat := answers name }) ++
      (hidden.filter (· ∉ names)).map fun name =>
        { name, listed := false, stat := answers name }

namespace Directory

variable {answers : List UInt8 → List Response} {hidden names : List (List UInt8)}

theorem listedNames_scripted : (scripted answers hidden names).listedNames = names := by
  simp [scripted, listedNames, List.filter_map, Function.comp_def]

theorem nodup_scripted (distinct : names.Nodup) (distinct_hidden : hidden.Nodup) :
    ((scripted answers hidden names).entries.map (·.name)).Nodup := by
  have all : (scripted answers hidden names).entries.map (·.name) =
      names ++ hidden.filter (· ∉ names) := by
    simp [scripted, Function.comp_def]
  rw [all, List.nodup_append]
  refine ⟨distinct, distinct_hidden.filter _, ?_⟩
  intro a listed b kept same
  rw [← same, List.mem_filter] at kept
  exact of_decide_eq_true kept.2 listed

theorem responses_scripted {pid : Pid} (present : entryName pid ∈ hidden) :
    (scripted answers hidden names).responses pid .stat = answers (entryName pid) := by
  apply responses_of_scripted
  · intro entry member
    rcases List.mem_append.mp member with listed | kept
    · obtain ⟨name, -, rfl⟩ := List.mem_map.mp listed
      rfl
    · obtain ⟨name, -, rfl⟩ := List.mem_map.mp kept
      rfl
  · by_cases listed : entryName pid ∈ names
    · exact ⟨_, List.mem_append_left _ (List.mem_map.mpr ⟨_, listed, rfl⟩), rfl⟩
    · have kept : entryName pid ∈ hidden.filter (· ∉ names) :=
        List.mem_filter.mpr ⟨present, decide_eq_true listed⟩
      exact ⟨_, List.mem_append_right _ (List.mem_map.mpr ⟨_, kept, rfl⟩), rfl⟩

end Directory

/-- The stat file of a process with a parent. -/
def childStat (pid parent : Pid) : List UInt8 :=
  statFile pid [] (StatValues.fields {
    parent, group := 0, session := 0, userTicks := 0, systemTicks := 0, startTime := 0
    virtualMemory := 0, residentPages := 0 })

/-- A stat file that is there gives a record with the parent that it names. -/
theorem Reader.readProcess_of_childStat {r : Reader} {d : Directory} {pid parent : Pid}
    (held : (r.access d pid .stat).1 = .ok (childStat pid parent)) :
    (∃ q, (r.readProcess pid d).1 = .ok q ∧ q.parent = parent) ∧
      (r.readProcess pid d).2 =
        (r.access (r.access d pid .stat).2 pid .commandLine).2 := by
  have once := readOnce_of_statFile (statFields_fields _) held
  have same := readProcess_of_ok (congrArg Prod.fst once)
  rw [same, once]
  exact ⟨⟨_, rfl, rfl⟩, rfl⟩

end ProcessAccounting.Proc
