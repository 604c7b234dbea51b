import ProcessAccounting.Text.Blank
import Mathlib.Data.List.TakeWhile

/-!
# Trimming

What trimming leaves of a text, said without trimming: the text is this part between two runs of
blanks, and the part neither starts nor ends with a blank.  There is exactly one such part
(`trimmed_iff`), so trimming a second time changes nothing.
-/

namespace ProcessAccounting.Text

variable {cs inner before after : List Char}

/-- `inner` is what is left of `cs` without the blanks at its two ends. -/
structure Trimmed (cs inner : List Char) : Prop where
  parts : ∃ before after, cs = before ++ inner ++ after ∧
    (∀ c ∈ before, isBlank c = true) ∧ ∀ c ∈ after, isBlank c = true
  first : ∀ c ∈ inner.head?, isBlank c = false
  last : ∀ c ∈ inner.getLast?, isBlank c = false

theorem trimStart_blank_append (blank : ∀ c ∈ before, isBlank c = true) (cs : List Char) :
    trimStart (before ++ cs) = trimStart cs :=
  List.dropWhile_append_of_pos blank

theorem trimStart_of_first (first : ∀ c ∈ cs.head?, isBlank c = false) : trimStart cs = cs := by
  cases cs with
  | nil => rfl
  | cons c cs => exact List.dropWhile_cons_of_neg (by simp [first c rfl])

/-- What is dropped at the start is blank. -/
theorem exists_trimStart (cs : List Char) :
    ∃ before, cs = before ++ trimStart cs ∧ ∀ c ∈ before, isBlank c = true :=
  ⟨cs.takeWhile isBlank, List.takeWhile_append_dropWhile.symm,
    fun _ member => List.mem_takeWhile_imp member⟩

theorem isBlank_of_head?_trimStart {c : Char} (first : c ∈ (trimStart cs).head?) :
    isBlank c = false := by
  have solid := List.head?_dropWhile_not isBlank cs
  rw [trimStart, Option.mem_def] at first
  rwa [first] at solid

theorem trimEnd_append_blank (blank : ∀ c ∈ after, isBlank c = true) (cs : List Char) :
    trimEnd (cs ++ after) = trimEnd cs := by
  have backwards : ∀ c ∈ after.reverse, isBlank c = true := by simpa using blank
  rw [trimEnd, List.reverse_append, trimStart_blank_append backwards, trimEnd]

theorem trimEnd_of_last (last : ∀ c ∈ cs.getLast?, isBlank c = false) : trimEnd cs = cs := by
  rw [← List.head?_reverse] at last
  rw [trimEnd, trimStart_of_first last, List.reverse_reverse]

/-- What is dropped at the end is blank. -/
theorem exists_trimEnd (cs : List Char) :
    ∃ after, cs = trimEnd cs ++ after ∧ ∀ c ∈ after, isBlank c = true := by
  obtain ⟨before, parts, blank⟩ := exists_trimStart cs.reverse
  refine ⟨before.reverse, ?_, by simpa using blank⟩
  rw [trimEnd, ← List.reverse_append, ← parts, List.reverse_reverse]

theorem trimmed_trim (cs : List Char) : Trimmed cs (trim cs) := by
  obtain ⟨before, parts, blank⟩ := exists_trimStart cs
  obtain ⟨after, parts', blank'⟩ := exists_trimEnd (trimStart cs)
  refine ⟨⟨before, after, ?_, blank, blank'⟩, ?_, ?_⟩
  · rw [trim, List.append_assoc, ← parts', ← parts]
  · -- The first character that is left at the end is the first one that was left at the start.
    intro c first
    have start : c ∈ (trimStart cs).head? := by
      rw [parts', List.head?_append, ← trim, Option.mem_def.mp first]
      rfl
    exact isBlank_of_head?_trimStart start
  · intro c last
    rw [trim, trimEnd, List.getLast?_reverse] at last
    exact isBlank_of_head?_trimStart last

theorem trim_of_trimmed (trimmed : Trimmed cs inner) : trim cs = inner := by
  obtain ⟨⟨before, after, rfl, blank, blank'⟩, first, last⟩ := trimmed
  rw [trim, List.append_assoc, trimStart_blank_append blank]
  cases inner with
  | nil =>
    have nothing : trimStart after = [] := List.dropWhile_eq_nil_iff.mpr blank'
    rw [List.nil_append, nothing]
    rfl
  | cons c inner =>
    have start : trimStart (c :: inner ++ after) = c :: inner ++ after := trimStart_of_first first
    rw [start, trimEnd_append_blank blank', trimEnd_of_last last]

theorem trimmed_iff : Trimmed cs inner ↔ inner = trim cs := by
  constructor
  · intro trimmed
    exact (trim_of_trimmed trimmed).symm
  · rintro rfl
    exact trimmed_trim cs

theorem trim_trim (cs : List Char) : trim (trim cs) = trim cs := by
  obtain ⟨-, first, last⟩ := trimmed_trim cs
  rw [trim, trimStart_of_first first, trimEnd_of_last last]

/-- Trimming takes a blank off the end of a text without blanks. -/
theorem trim_concat_blank {xs : List Char} (solid : ∀ c ∈ xs, isBlank c = false) {c : Char}
    (blank : isBlank c = true) : trim (xs ++ [c]) = xs := by
  apply trim_of_trimmed
  refine ⟨⟨[], [c], rfl, by simp, by simpa using blank⟩, ?_, ?_⟩
  · intro d first
    exact solid d (List.mem_of_mem_head? first)
  · intro d last
    exact solid d (List.mem_of_mem_getLast? last)

end ProcessAccounting.Text
