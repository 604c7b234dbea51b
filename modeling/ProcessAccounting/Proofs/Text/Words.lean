import ProcessAccounting.Text.Blank

/-!
# Words

How texts that are put together with blanks come apart again.
-/

namespace ProcessAccounting.Text

theorem isBlank_of_isDigit {c : Char} (digit : c.isDigit = true) : isBlank c = false := by
  simp only [Char.isDigit, Bool.and_eq_true, decide_eq_true_eq, ge_iff_le,
    UInt32.le_iff_toNat_le] at digit
  change 48 ≤ c.toNat ∧ c.toNat ≤ 57 at digit
  simp only [isBlank, Bool.or_eq_false_iff, Bool.and_eq_false_iff, decide_eq_false_iff_not,
    beq_eq_false_iff_ne]
  omega

/-- A blank ends one word and starts the next. -/
theorem words_append_blank (xs ys : List Char) {c : Char} (blank : isBlank c = true) :
    words (xs ++ c :: ys) = words xs ++ words ys :=
  filledPieces_append isBlank xs ys blank

theorem words_cons_blank (ys : List Char) {c : Char} (blank : isBlank c = true) :
    words (c :: ys) = words ys :=
  words_append_blank [] ys blank

theorem words_singleton {word : List Char} (filled : word ≠ [])
    (solid : ∀ c ∈ word, isBlank c = false) : words word = [word] := by
  rw [words, filledPieces, pieces_eq_singleton isBlank word solid]
  simp [filled]

theorem words_of_blank {cs : List Char} (blank : ∀ c ∈ cs, isBlank c = true) : words cs = [] := by
  induction cs with
  | nil => rfl
  | cons c cs ih =>
    rw [words_cons_blank cs (blank c List.mem_cons_self)]
    exact ih fun d member => blank d (List.mem_cons_of_mem c member)

/-- A text that starts with a blank is apart from what stands before it. -/
theorem words_append (xs : List Char) {ys : List Char}
    (apart : ∀ c ∈ ys.head?, isBlank c = true) : words (xs ++ ys) = words xs ++ words ys := by
  cases ys with
  | nil =>
    rw [List.append_nil]
    exact (List.append_nil (words xs)).symm
  | cons c ys =>
    have blank : isBlank c = true := apart c rfl
    rw [words_append_blank xs ys blank, words_cons_blank ys blank]

/-- Texts without blanks are the words of what is made of them with a space before each. -/
theorem words_flatMap {tokens : List (List Char)} {ending : List Char}
    (filled : ∀ token ∈ tokens, token ≠ [])
    (solid : ∀ token ∈ tokens, ∀ c ∈ token, isBlank c = false)
    (blank : ∀ c ∈ ending, isBlank c = true) :
    words (tokens.flatMap (' ' :: ·) ++ ending) = tokens := by
  induction tokens with
  | nil => exact words_of_blank blank
  | cons token tokens ih =>
    have apart : ∀ c ∈ (tokens.flatMap (' ' :: ·) ++ ending).head?, isBlank c = true := by
      intro c first
      cases tokens with
      | nil => exact blank c (List.mem_of_mem_head? first)
      | cons next tokens =>
        cases first
        rfl
    have rest := ih (fun t member => filled t (List.mem_cons_of_mem token member))
      fun t member => solid t (List.mem_cons_of_mem token member)
    rw [List.flatMap_cons, List.append_assoc, List.cons_append, words_cons_blank _ (by decide),
      words_append token apart,
      words_singleton (filled token List.mem_cons_self) (solid token List.mem_cons_self), rest]
    rfl

end ProcessAccounting.Text
