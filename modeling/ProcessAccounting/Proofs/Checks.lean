/-!
# Results and rows of checks

Computations that stop at the first fault.  When all that matters of a computation is its
fault, it is a row of checks, and the first one that fails decides: `forM_eq_error_iff`.
-/

namespace ProcessAccounting

theorem exists_of_bind_eq_ok {ε α β : Type} {x : Except ε α} {f : α → Except ε β} {b : β}
    (ok : x >>= f = .ok b) : ∃ a, x = .ok a ∧ f a = .ok b := by
  cases x with
  | error e => cases ok
  | ok a => exact ⟨a, rfl, ok⟩

theorem map_eq_error_iff {ε α β : Type} {x : Except ε α} {f : α → β} {e : ε} :
    x.map f = .error e ↔ x = .error e := by
  cases x with
  | ok a => simp [Except.map]
  | error e' => simp [Except.map]

theorem mapError_eq_ok_iff {ε ε' α : Type} {x : Except ε α} {f : ε → ε'} {a : α} :
    x.mapError f = .ok a ↔ x = .ok a := by
  cases x with
  | ok b =>
    show Except.ok b = .ok a ↔ Except.ok b = .ok a
    rw [Except.ok.injEq, Except.ok.injEq]
  | error e => exact iff_of_false (fun ok => nomatch ok) (fun ok => nomatch ok)

theorem mapError_eq_error_iff {ε ε' α : Type} {x : Except ε α} {f : ε → ε'} {e' : ε'} :
    x.mapError f = .error e' ↔ ∃ e, x = .error e ∧ e' = f e := by
  cases x with
  | ok a => exact iff_of_false (fun error => nomatch error) (fun ⟨_, error, _⟩ => nomatch error)
  | error e =>
    show Except.error (f e) = .error e' ↔ _
    simp [eq_comm]

/-- In a row of checks the first one that fails gives the error. -/
theorem forM_eq_error_iff {ε α : Type} {check : α → Except ε Unit} {xs : List α} {e : ε} :
    xs.forM check = .error e ↔
      ∃ done x rest, xs = done ++ x :: rest ∧ (∀ y ∈ done, check y = .ok ()) ∧
        check x = .error e := by
  induction xs with
  | nil => simp [pure, Except.pure]
  | cons x xs ih =>
    have steps : (x :: xs).forM check = check x >>= fun _ => xs.forM check := rfl
    rw [steps]
    cases first : check x with
    | error e' =>
      constructor
      · intro error
        cases error
        exact ⟨[], x, xs, rfl, List.forall_mem_nil _, first⟩
      · rintro ⟨_ | ⟨y, done⟩, z, rest, parts, passed, failed⟩
        · cases parts
          exact first.symm.trans failed
        · cases parts
          rw [passed x List.mem_cons_self] at first
          cases first
    | ok _ =>
      show xs.forM check = .error e ↔ _
      rw [ih]
      constructor
      · rintro ⟨done, z, rest, rfl, passed, failed⟩
        exact ⟨x :: done, z, rest, rfl, List.forall_mem_cons.mpr ⟨first, passed⟩, failed⟩
      · rintro ⟨_ | ⟨y, done⟩, z, rest, parts, passed, failed⟩
        · cases parts
          rw [failed] at first
          cases first
        · cases parts
          exact ⟨done, z, rest, rfl, fun y member => passed y (List.mem_cons_of_mem x member),
            failed⟩

theorem forM_eq_ok_iff {ε α : Type} {check : α → Except ε Unit} {xs : List α} :
    xs.forM check = .ok () ↔ ∀ x ∈ xs, check x = .ok () := by
  induction xs with
  | nil => exact iff_of_true rfl (List.forall_mem_nil _)
  | cons x xs ih =>
    have steps : (x :: xs).forM check = check x >>= fun _ => xs.forM check := rfl
    rw [steps, List.forall_mem_cons, ← ih]
    cases check x with
    | error e => exact iff_of_false (fun ok => nomatch ok) (fun passed => nomatch passed.1)
    | ok _ => exact (and_iff_right rfl).symm

/-- What is left of a result when nothing but its fault matters. -/
def verdict {ε α : Type} (x : Except ε α) : Except ε Unit := x.map fun _ => ()

theorem verdict_eq_error_iff {ε α : Type} {x : Except ε α} {e : ε} :
    verdict x = .error e ↔ x = .error e :=
  map_eq_error_iff

theorem verdict_eq_ok_iff {ε α : Type} {x : Except ε α} :
    verdict x = .ok () ↔ ∃ a, x = .ok a := by
  cases x with
  | ok a => exact iff_of_true rfl ⟨a, rfl⟩
  | error e => exact iff_of_false (fun ok => nomatch ok) (fun ⟨_, ok⟩ => nomatch ok)

theorem verdict_bind {ε α β : Type} {x : Except ε α} {f : α → Except ε β}
    {first rest : Except ε Unit} (head : verdict x = first) (tail : ∀ a, verdict (f a) = rest) :
    verdict (x >>= f) = first >>= fun _ => rest := by
  subst head
  cases x with
  | error e => rfl
  | ok a => exact tail a

end ProcessAccounting
