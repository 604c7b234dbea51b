/-!
# First-in, first-out queues

A queue of two lists: elements leave at the front of the first and enter at the
front of the second, which is reversed when the first runs out.  `toList` is the
view through which everything else is stated: `toList_push`, `toList_of_pop?` and
`pop?_eq_none_iff` say what the two operations do to it.
-/

namespace ProcessAccounting

/-- A first-in, first-out queue. -/
structure Queue (α : Type) where
  /-- The elements that leave next, in order. -/
  front : List α := []
  /-- The elements that leave after those, the newest first. -/
  back : List α := []

namespace Queue

variable {α : Type}

/-- The elements in the order in which they leave. -/
def toList (q : Queue α) : List α := q.front ++ q.back.reverse

def singleton (a : α) : Queue α := { front := [a] }

/-- Adds an element, which leaves after all others. -/
def push (q : Queue α) (a : α) : Queue α := { q with back := a :: q.back }

/-- Takes the element that entered first, if there is one. -/
def pop? (q : Queue α) : Option (α × Queue α) :=
  match q.front with
  | a :: front => some (a, { q with front })
  | [] =>
    match q.back.reverse with
    | a :: front => some (a, { front })
    | [] => none

@[simp] theorem toList_singleton (a : α) : (singleton a).toList = [a] := rfl

@[simp] theorem toList_push (q : Queue α) (a : α) : (q.push a).toList = q.toList ++ [a] := by
  simp [toList, push]

theorem pop?_eq_none_iff (q : Queue α) : q.pop? = none ↔ q.toList = [] := by
  obtain ⟨front, back⟩ := q
  cases front with
  | cons a front => simp [pop?, toList]
  | nil =>
    simp only [pop?, toList, List.nil_append]
    split <;> simp_all

theorem toList_of_pop? {q r : Queue α} {a : α} (h : q.pop? = some (a, r)) :
    q.toList = a :: r.toList := by
  obtain ⟨front, back⟩ := q
  cases front with
  | cons b front =>
    simp only [pop?, Option.some.injEq, Prod.mk.injEq] at h
    obtain ⟨rfl, rfl⟩ := h
    rfl
  | nil =>
    simp only [pop?] at h
    split at h
    · next b front hb =>
      simp only [Option.some.injEq, Prod.mk.injEq] at h
      obtain ⟨rfl, rfl⟩ := h
      simp [toList, hb]
    · simp at h

end Queue

end ProcessAccounting
