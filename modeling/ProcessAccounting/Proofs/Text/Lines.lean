import ProcessAccounting.Text.Pieces
import Mathlib.Data.List.Basic

/-!
# Lines

A text cut at its line breaks, each of which ends a line.
-/

namespace ProcessAccounting.Text

def isBreak (c : Char) : Bool := c == '\n'

theorem isBreak_of_notMem {xs : List Char} (unbroken : '\n' ∉ xs) :
    ∀ c ∈ xs, isBreak c = false := by
  intro c member
  have other : c ≠ '\n' := fun same => unbroken (same ▸ member)
  simp [isBreak, other]

/-- The lines of a text.  All are ended by a line break, except perhaps the last. -/
def lines : List Char → List (List Char)
  | [] => []
  | c :: rest => if isBreak c then [] :: lines rest else consFirst c (lines rest)

/-- What stands before a line break is cut on its own. -/
theorem lines_append_break (xs ys : List Char) :
    lines (xs ++ '\n' :: ys) = pieces isBreak xs ++ lines ys := by
  induction xs with
  | nil => rfl
  | cons c xs ih =>
    rw [List.cons_append, lines, pieces, ih]
    split
    · rfl
    · rw [consFirst_append c _ (pieces_ne_nil isBreak xs)]

variable {α : Type}

theorem length_consFirst (a : α) {ps : List (List α)} (h : ps ≠ []) :
    (consFirst a ps).length = ps.length := by
  cases ps with
  | nil => exact absurd rfl h
  | cons piece others => rfl

/-- Each separator makes one more piece. -/
theorem length_pieces (separates : α → Bool) (xs : List α) :
    (pieces separates xs).length = xs.countP separates + 1 := by
  induction xs with
  | nil => rfl
  | cons x xs ih =>
    rw [pieces]
    split
    · next yes => rw [List.length_cons, ih, List.countP_cons_of_pos yes]
    · next no =>
      rw [length_consFirst x (pieces_ne_nil separates xs), ih, List.countP_cons_of_neg no]

/-- What holds no separator stays at the start of the first piece. -/
theorem pieces_append_of_solid (separates : α → Bool) {xs : List α}
    (solid : ∀ a ∈ xs, separates a = false) (ys : List α) :
    ∃ first others, pieces separates (xs ++ ys) = (xs ++ first) :: others := by
  induction xs with
  | nil => exact List.exists_cons_of_ne_nil (pieces_ne_nil separates ys)
  | cons x xs ih =>
    obtain ⟨first, others, cut⟩ := ih fun a member => solid a (List.mem_cons_of_mem x member)
    have stays : separates x = false := solid x List.mem_cons_self
    exact ⟨first, others, by simp [pieces, stays, cut, consFirst]⟩

end ProcessAccounting.Text
