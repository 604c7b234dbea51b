/-!
# Pieces between separators

A list cut at every element that separates.  Two neighbouring separators enclose
an empty piece, and so do a separator and an end of the list, so `pieces_append`
holds without exceptions: cutting two lists around a separator gives the pieces
of the first followed by the pieces of the second.
-/

namespace ProcessAccounting.Text

variable {α : Type}

/-- Puts an element in front of the first piece. -/
def consFirst (a : α) : List (List α) → List (List α)
  | [] => [[a]]
  | piece :: others => (a :: piece) :: others

/-- The pieces of a list between its separators; there is always at least one. -/
def pieces (separates : α → Bool) : List α → List (List α)
  | [] => [[]]
  | a :: rest =>
    if separates a then [] :: pieces separates rest
    else consFirst a (pieces separates rest)

/-- The pieces that are not empty. -/
def filledPieces (separates : α → Bool) (xs : List α) : List (List α) :=
  (pieces separates xs).filter (!·.isEmpty)

@[simp] theorem consFirst_ne_nil (a : α) (ps : List (List α)) : consFirst a ps ≠ [] := by
  cases ps <;> simp [consFirst]

theorem pieces_ne_nil (separates : α → Bool) (xs : List α) : pieces separates xs ≠ [] := by
  cases xs with
  | nil => simp [pieces]
  | cons a rest =>
    rw [pieces]
    split <;> simp

theorem consFirst_append {ps : List (List α)} (a : α) (qs : List (List α)) (h : ps ≠ []) :
    consFirst a (ps ++ qs) = consFirst a ps ++ qs := by
  cases ps with
  | nil => exact absurd rfl h
  | cons p ps => rfl

/-- Cutting around a separator cuts the two sides on their own. -/
theorem pieces_append (separates : α → Bool) (xs ys : List α) {a : α}
    (h : separates a = true) :
    pieces separates (xs ++ a :: ys) = pieces separates xs ++ pieces separates ys := by
  induction xs with
  | nil => simp [pieces, h]
  | cons x xs ih =>
    rw [List.cons_append, pieces, pieces, ih]
    split
    · rfl
    · rw [consFirst_append x _ (pieces_ne_nil separates xs)]

theorem filledPieces_append (separates : α → Bool) (xs ys : List α) {a : α}
    (h : separates a = true) :
    filledPieces separates (xs ++ a :: ys) =
      filledPieces separates xs ++ filledPieces separates ys := by
  rw [filledPieces, pieces_append separates xs ys h, List.filter_append]
  rfl

/-- A list without separators is one piece. -/
theorem pieces_eq_singleton (separates : α → Bool) (xs : List α)
    (h : ∀ a ∈ xs, separates a = false) : pieces separates xs = [xs] := by
  induction xs with
  | nil => rfl
  | cons x xs ih =>
    rw [pieces, h x (by simp), ih fun a ha => h a (by simp [ha])]
    rfl

end ProcessAccounting.Text
