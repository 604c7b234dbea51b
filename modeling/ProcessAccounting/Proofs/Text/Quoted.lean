import ProcessAccounting.Text.Quoted

/-!
# How quoted text is written

Quoting said without computing it: a character has a name of its own, stands for itself, or is
written by its code point, and which of these it is does not depend on its neighbours.
-/

namespace ProcessAccounting.Text

/-- The characters with a name of their own, and the character that follows the backslash in it. -/
def nameOf : List (Char × Char) :=
  [('"', '"'), ('\\', '\\'), ('\t', 't'), ('\n', 'n'), ('\r', 'r'), ('\x00', '0')]

/-- The code point lies in one of the ranges of characters that are not seen. -/
def Unseen (c : Char) : Prop :=
  ∃ range, (range ∈ extending ∨ range ∈ unprintable) ∧ range.1 ≤ c.toNat ∧ c.toNat ≤ range.2

/-- How a character is shown inside quotes. -/
inductive Shows (c : Char) : List Char → Prop
  | named {name : Char} (listed : (c, name) ∈ nameOf) : Shows c ['\\', name]
  | itself (unnamed : ∀ name, (c, name) ∉ nameOf) (seen : ¬ Unseen c) : Shows c [c]
  | coded (unnamed : ∀ name, (c, name) ∉ nameOf) (unseen : Unseen c) :
      Shows c ('\\' :: 'u' :: '\x7b' :: (Nat.toDigits 16 c.toNat ++ ['\x7d']))

/-- How a text is shown inside quotes: one character after the other. -/
inductive ShowsEach : List Char → List Char → Prop
  | nil : ShowsEach [] []
  | cons {c : Char} {cs shown rest : List Char} (first : Shows c shown)
      (others : ShowsEach cs rest) : ShowsEach (c :: cs) (shown ++ rest)

/-- The written text is the other one in quotes. -/
def Quotes (text written : String) : Prop :=
  ∃ shown, ShowsEach text.toList shown ∧ written.toList = '"' :: (shown ++ ['"'])

theorem isSeen_eq_true_iff {c : Char} : isSeen c = true ↔ ¬ Unseen c := by
  rw [isSeen, Bool.not_eq_true', List.any_eq_false, Unseen, not_exists]
  simp only [List.mem_append, Bool.and_eq_true, decide_eq_true_eq, not_and]

theorem quotedChar_of_named {c name : Char} (listed : (c, name) ∈ nameOf) :
    quotedChar c = ['\\', name] := by
  simp only [nameOf, List.mem_cons, Prod.mk.injEq, List.not_mem_nil, or_false] at listed
  obtain ⟨rfl, rfl⟩ | ⟨rfl, rfl⟩ | ⟨rfl, rfl⟩ | ⟨rfl, rfl⟩ | ⟨rfl, rfl⟩ | ⟨rfl, rfl⟩ := listed <;>
    rfl

theorem quotedChar_of_unnamed {c : Char} (unnamed : ∀ name, (c, name) ∉ nameOf) :
    quotedChar c =
      if isSeen c then [c]
      else '\\' :: 'u' :: '\x7b' :: (Nat.toDigits 16 c.toNat ++ ['\x7d']) := by
  have other (pair : Char × Char) (listed : pair ∈ nameOf) : c ≠ pair.1 := by
    rintro rfl
    exact unnamed pair.2 listed
  rw [quotedChar, if_neg (other ('"', '"') (by simp [nameOf])),
    if_neg (other ('\\', '\\') (by simp [nameOf])), if_neg (other ('\t', 't') (by simp [nameOf])),
    if_neg (other ('\n', 'n') (by simp [nameOf])), if_neg (other ('\r', 'r') (by simp [nameOf])),
    if_neg (other ('\x00', '0') (by simp [nameOf]))]
  rfl

theorem shows_quotedChar (c : Char) : Shows c (quotedChar c) := by
  by_cases named : ∃ name, (c, name) ∈ nameOf
  · obtain ⟨name, listed⟩ := named
    rw [quotedChar_of_named listed]
    exact .named listed
  · have unnamed : ∀ name, (c, name) ∉ nameOf := fun name listed => named ⟨name, listed⟩
    rw [quotedChar_of_unnamed unnamed]
    by_cases unseen : Unseen c
    · rw [if_neg (fun seen => isSeen_eq_true_iff.mp seen unseen)]
      exact .coded unnamed unseen
    · rw [if_pos (isSeen_eq_true_iff.mpr unseen)]
      exact .itself unnamed unseen

/-- There is one way to show a character. -/
theorem shows_iff {c : Char} {shown : List Char} : Shows c shown ↔ shown = quotedChar c := by
  constructor
  · intro shows
    cases shows with
    | named listed => exact (quotedChar_of_named listed).symm
    | itself unnamed seen =>
      rw [quotedChar_of_unnamed unnamed, if_pos (isSeen_eq_true_iff.mpr seen)]
    | coded unnamed unseen =>
      rw [quotedChar_of_unnamed unnamed, if_neg (fun seen => isSeen_eq_true_iff.mp seen unseen)]
  · rintro rfl
    exact shows_quotedChar c

theorem showsEach_iff {cs shown : List Char} :
    ShowsEach cs shown ↔ shown = cs.flatMap quotedChar := by
  induction cs generalizing shown with
  | nil =>
    constructor
    · intro shows
      cases shows
      rfl
    · rintro rfl
      exact .nil
  | cons c cs ih =>
    rw [List.flatMap_cons]
    constructor
    · intro shows
      cases shows with
      | cons first others => rw [shows_iff.mp first, ih.mp others]
    · rintro rfl
      exact .cons (shows_quotedChar c) (ih.mpr rfl)

/-- A text is written in quotes in exactly one way. -/
theorem quotes_iff {text written : String} : Quotes text written ↔ written = quoted text := by
  simp only [Quotes, showsEach_iff, exists_eq_left, ← String.toList_inj, quoted, String.toList_ofList]
  rfl

-- A mark goes together with the letter before it, and 0378 is not assigned.
example : (quoted "\u0915\u0941 \u0378\t").toList =
    "\"\u0915\\u\x7b941\x7d \\u\x7b378\x7d\\t\"".toList := by decide +kernel

end ProcessAccounting.Text
