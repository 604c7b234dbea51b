/-!
# Cutting a list at an element

A list taken apart at the first or at the last place where an element stands.  The
two laws say exactly which pair of parts each cut gives.
-/

namespace ProcessAccounting.Text

variable {α : Type} [DecidableEq α]

/-- The parts before and after the first `a`. -/
def cutFirst? (a : α) : List α → Option (List α × List α)
  | [] => none
  | x :: rest =>
    if x = a then some ([], rest)
    else (cutFirst? a rest).map fun parts => (x :: parts.1, parts.2)

/-- The parts before and after the last `a`. -/
def cutLast? (a : α) (xs : List α) : Option (List α × List α) :=
  (cutFirst? a xs.reverse).map fun parts => (parts.2.reverse, parts.1.reverse)

theorem cutFirst?_eq_some_iff {a : α} {xs before after : List α} :
    cutFirst? a xs = some (before, after) ↔ xs = before ++ a :: after ∧ a ∉ before := by
  induction xs generalizing before with
  | nil => simp [cutFirst?]
  | cons x rest ih =>
    by_cases h : x = a
    · subst h
      cases before with
      | nil => simp [cutFirst?]
      | cons b before =>
        simp only [cutFirst?, if_pos, Option.some.injEq, Prod.mk.injEq, List.cons_append,
          List.cons.injEq, List.mem_cons, not_or, reduceCtorEq, false_and, false_iff]
        rintro ⟨⟨h, -⟩, h', -⟩
        exact h' h
    · cases before with
      | nil => simp [cutFirst?, h]
      | cons b before =>
        simp only [cutFirst?, if_neg h, Option.map_eq_some_iff, Prod.exists, Prod.mk.injEq,
          List.cons.injEq, List.cons_append, List.mem_cons, not_or]
        constructor
        · rintro ⟨b', a', hcut, ⟨rfl, rfl⟩, rfl⟩
          obtain ⟨rfl, hmem⟩ := ih.mp hcut
          exact ⟨⟨rfl, rfl⟩, fun hax => h hax.symm, hmem⟩
        · rintro ⟨⟨rfl, hrest⟩, -, hmem⟩
          exact ⟨before, after, ih.mpr ⟨hrest, hmem⟩, ⟨rfl, rfl⟩, rfl⟩

theorem cutFirst?_eq_none_iff {a : α} {xs : List α} : cutFirst? a xs = none ↔ a ∉ xs := by
  induction xs with
  | nil => simp [cutFirst?]
  | cons x rest ih =>
    by_cases h : x = a
    · simp [cutFirst?, h]
    · simp [cutFirst?, h, ih, Ne.symm h]

theorem cutLast?_eq_some_iff {a : α} {xs before after : List α} :
    cutLast? a xs = some (before, after) ↔ xs = before ++ a :: after ∧ a ∉ after := by
  simp only [cutLast?, Option.map_eq_some_iff, Prod.exists, Prod.mk.injEq,
    cutFirst?_eq_some_iff, List.reverse_eq_iff]
  constructor
  · rintro ⟨b, e, ⟨rfl, hmem⟩, rfl, rfl⟩
    simpa using hmem
  · rintro ⟨rfl, hmem⟩
    exact ⟨after.reverse, before.reverse, by simpa using hmem, by simp, by simp⟩

theorem cutLast?_eq_none_iff {a : α} {xs : List α} : cutLast? a xs = none ↔ a ∉ xs := by
  simp [cutLast?, cutFirst?_eq_none_iff]

end ProcessAccounting.Text
