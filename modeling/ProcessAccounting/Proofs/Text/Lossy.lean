import ProcessAccounting.Text.Lossy

/-!
# Laws of lossy decoding

ASCII bytes are decoded one by one, and bytes never decode to nothing.
-/

namespace ProcessAccounting.Text.Lossy

theorem decode_cons_ascii (rest : List UInt8) {b : UInt8} (ascii : b < 0x80) :
    decode (b :: rest) = Char.ofNat b.toNat :: decode rest :=
  decode_append_ascii [] rest ascii

/-- Bytes that start with an ASCII byte are decoded apart from what stands before them. -/
theorem decode_append (before : List UInt8) {after : List UInt8}
    (ascii : ∀ b ∈ after.head?, b < 0x80) :
    decode (before ++ after) = decode before ++ decode after := by
  cases after with
  | nil =>
    rw [List.append_nil]
    exact (List.append_nil (decode before)).symm
  | cons b after =>
    have first : b < 0x80 := ascii b rfl
    rw [decode_append_ascii before after first, decode_cons_ascii after first]

theorem decode_of_ascii {bytes : List UInt8} (ascii : ∀ b ∈ bytes, b < 0x80) :
    decode bytes = bytes.map fun b => Char.ofNat b.toNat := by
  induction bytes with
  | nil => rfl
  | cons b bytes ih =>
    rw [decode_cons_ascii bytes (ascii b List.mem_cons_self), List.map_cons,
      ih fun b member => ascii b (List.mem_cons_of_mem _ member)]

/-- An ASCII byte is found again in the text. -/
theorem mem_decode_of_ascii {bytes : List UInt8} {b : UInt8} (ascii : b < 0x80)
    (member : b ∈ bytes) :
    Char.ofNat b.toNat ∈ decode bytes := by
  obtain ⟨before, after, rfl⟩ := List.append_of_mem member
  simp [decode_append_ascii before after ascii]

/-- A character is given or one is left unfinished. -/
def Progress (output : List Char × State) : Prop := output.1 ≠ [] ∨ output.2 ≠ none

theorem Progress.ite {c : Prop} [Decidable c] {yes no : List Char × State}
    (first : Progress yes) (second : Progress no) : Progress (if c then yes else no) := by
  split
  · exact first
  · exact second

theorem progress_start (b : UInt8) : Progress (start b) := by
  unfold start
  repeat' apply Progress.ite
  all_goals first
    | exact .inl (List.cons_ne_nil _ _)
    | exact .inr (Option.some_ne_none _)

theorem progress_step (state : State) (b : UInt8) : Progress (step state b) := by
  cases state with
  | none => exact progress_start b
  | some u =>
    apply Progress.ite
    · cases u.owedAfterNext with
      | zero => exact .inl (List.cons_ne_nil _ _)
      | succ owed => exact .inr (Option.some_ne_none _)
    · exact .inl (List.cons_ne_nil _ _)

theorem decodeFrom_ne_nil {state : State} {bytes : List UInt8}
    (something : state ≠ none ∨ bytes ≠ []) : decodeFrom state bytes ≠ [] := by
  induction bytes generalizing state with
  | nil =>
    cases state with
    | none => exact absurd rfl (something.resolve_right fun h => h rfl)
    | some u => exact List.cons_ne_nil _ _
  | cons b bytes ih =>
    rw [decodeFrom]
    intro empty
    rw [List.append_eq_nil_iff] at empty
    rcases progress_step state b with given | unfinished
    · exact given empty.1
    · exact ih (.inl unfinished) empty.2

/-- Bytes never decode to an empty text. -/
theorem decode_ne_nil {bytes : List UInt8} (filled : bytes ≠ []) : decode bytes ≠ [] :=
  decodeFrom_ne_nil (.inr filled)

end ProcessAccounting.Text.Lossy
