import ProcessAccounting.Text.Numeral
import ProcessAccounting.Proofs.Checks

/-!
# What numerals denote

Reading accepts exactly the decimal numerals of the numbers below the limit:
`read_eq_ok_iff`, and for words `readUInt32_eq_ok_iff` and `readUInt64_eq_ok_iff`.  Any other
text is refused for the first character that cannot stand where it is: `read_eq_error_iff`.
-/

namespace ProcessAccounting.Text.Numeral

/-- The text is a decimal numeral of `n`: digits, after at most one plus sign. -/
def Denotes (cs : List Char) (n : Nat) : Prop :=
  ∃ digits, (cs = digits ∨ cs = '+' :: digits) ∧ digits ≠ [] ∧
    (∀ c ∈ digits, c.isDigit = true) ∧ Nat.ofDigitChars 10 digits 0 = n

theorem digit?_of_isDigit {c : Char} (digit : c.isDigit = true) :
    digit? c = some (c.toNat - '0'.toNat) := by
  simp only [Char.isDigit, Bool.and_eq_true, decide_eq_true_eq] at digit
  exact if_pos digit

theorem digit?_of_not_isDigit {c : Char} (other : c.isDigit = false) : digit? c = none := by
  apply if_neg
  intro digit
  have isDigit : c.isDigit = true := by
    simp only [Char.isDigit, Bool.and_eq_true, decide_eq_true_eq]
    exact digit
  rw [other] at isDigit
  cases isDigit

theorem le_ofDigitChars (cs : List Char) (value : Nat) : value ≤ Nat.ofDigitChars 10 cs value := by
  induction cs generalizing value with
  | nil => exact Nat.le_of_eq Nat.ofDigitChars_nil.symm
  | cons c cs ih =>
    rw [Nat.ofDigitChars_cons]
    have step := ih (10 * value + (c.toNat - '0'.toNat))
    omega

theorem readDigits_eq_ok_iff {limit value n : Nat} {cs : List Char} (below : value < limit) :
    readDigits limit value cs = .ok n ↔
      (∀ c ∈ cs, c.isDigit = true) ∧ Nat.ofDigitChars 10 cs value = n ∧ n < limit := by
  induction cs generalizing value with
  | nil =>
    rw [readDigits, Nat.ofDigitChars_nil, Except.ok.injEq]
    constructor
    · rintro rfl
      exact ⟨by simp, rfl, below⟩
    · exact fun h => h.2.1
  | cons c cs ih =>
    cases digit : c.isDigit with
    | false =>
      rw [readDigits, digit?_of_not_isDigit digit]
      constructor
      · intro h
        cases h
      · rintro ⟨all, -⟩
        rw [all c List.mem_cons_self] at digit
        cases digit
    | true =>
      rw [readDigits, digit?_of_isDigit digit, Nat.ofDigitChars_cons, Nat.mul_comm 10 value]
      simp only
      split
      · next fits =>
        rw [ih fits, List.forall_mem_cons]
        exact ⟨fun h => ⟨⟨digit, h.1⟩, h.2⟩, fun h => ⟨h.1.2, h.2⟩⟩
      · next large =>
        constructor
        · intro h
          cases h
        · rintro ⟨-, rfl, fits⟩
          have grows := le_ofDigitChars cs (value * 10 + (c.toNat - '0'.toNat))
          omega

theorem read_eq_ok_iff {limit n : Nat} {cs : List Char} (positive : 0 < limit) :
    read limit cs = .ok n ↔ Denotes cs n ∧ n < limit := by
  have digits (ds : List Char) (filled : ds ≠ []) : readDigits limit 0 ds = .ok n ↔
      ds ≠ [] ∧ (∀ c ∈ ds, c.isDigit = true) ∧ Nat.ofDigitChars 10 ds 0 = n ∧ n < limit := by
    rw [readDigits_eq_ok_iff positive]
    exact ⟨fun h => ⟨filled, h⟩, fun h => h.2⟩
  unfold read
  split
  · constructor
    · intro h
      cases h
    · rintro ⟨⟨ds, rfl | h, filled, -⟩, -⟩
      · exact absurd rfl filled
      · cases h
  · constructor
    · intro h
      cases h
    · rintro ⟨⟨ds, rfl | h, filled, all, -⟩, -⟩
      · have sign := all '+' List.mem_cons_self
        cases sign
      · cases h
        exact absurd rfl filled
  · next c rest =>
    rw [digits (c :: rest) (List.cons_ne_nil c rest)]
    constructor
    · rintro ⟨filled, all, value, fits⟩
      exact ⟨⟨c :: rest, .inr rfl, filled, all, value⟩, fits⟩
    · rintro ⟨⟨ds, rfl | h, filled, all, value⟩, fits⟩
      · have sign := all '+' List.mem_cons_self
        cases sign
      · cases h
        exact ⟨filled, all, value, fits⟩
  · next c rest lone signed =>
    rw [digits (c :: rest) (List.cons_ne_nil c rest)]
    constructor
    · rintro ⟨filled, all, value, fits⟩
      exact ⟨⟨c :: rest, .inl rfl, filled, all, value⟩, fits⟩
    · rintro ⟨⟨ds, rfl | h, filled, all, value⟩, fits⟩
      · exact ⟨filled, all, value, fits⟩
      · cases h
        cases rest with
        | nil => exact absurd rfl filled
        | cons d ds => exact (signed d ds rfl rfl).elim

theorem readUInt32_eq_ok_iff {cs : List Char} {n : UInt32} :
    readUInt32 cs = .ok n ↔ Denotes cs n.toNat := by
  have below := n.toNat_lt
  constructor
  · intro h
    cases value : read UInt32.size cs with
    | error fault => rw [readUInt32, value] at h; cases h
    | ok v =>
      rw [readUInt32, value] at h
      cases h
      obtain ⟨denotes, fits⟩ := (read_eq_ok_iff (by decide)).mp value
      rwa [UInt32.toNat_ofNat_of_lt' fits]
  · intro denotes
    rw [readUInt32, (read_eq_ok_iff (by decide)).mpr ⟨denotes, below⟩]
    exact congrArg Except.ok (UInt32.ofNat_toNat)

theorem readUInt64_eq_ok_iff {cs : List Char} {n : UInt64} :
    readUInt64 cs = .ok n ↔ Denotes cs n.toNat := by
  have below := n.toNat_lt
  constructor
  · intro h
    cases value : read UInt64.size cs with
    | error fault => rw [readUInt64, value] at h; cases h
    | ok v =>
      rw [readUInt64, value] at h
      cases h
      obtain ⟨denotes, fits⟩ := (read_eq_ok_iff (by decide)).mp value
      rwa [UInt64.toNat_ofNat_of_lt' fits]
  · intro denotes
    rw [readUInt64, (read_eq_ok_iff (by decide)).mpr ⟨denotes, below⟩]
    exact congrArg Except.ok (UInt64.ofNat_toNat)

/-- What stands after the sign.  A plus sign on its own is no sign. -/
def unsigned : List Char → List Char
  | '+' :: c :: rest => c :: rest
  | cs => cs

/-- Why a character cannot stand after digits that make up `value`. -/
inductive Stops (limit value : Nat) (c : Char) : Fault → Prop
  | invalidDigit (other : c.isDigit = false) : Stops limit value c .invalidDigit
  | tooLarge (digit : c.isDigit = true) (large : limit ≤ 10 * value + (c.toNat - '0'.toNat)) :
      Stops limit value c .tooLarge

/-- Why a text is no numeral of a number below the limit: there is nothing in it, or after
some digits, which are still below the limit, comes a character that cannot stand there. -/
inductive Refused (limit : Nat) (cs : List Char) : Fault → Prop
  | empty (nothing : cs = []) : Refused limit cs .empty
  | stopped {digits rest : List Char} {c : Char} {fault : Fault}
      (parts : unsigned cs = digits ++ c :: rest) (all : ∀ d ∈ digits, d.isDigit = true)
      (below : Nat.ofDigitChars 10 digits 0 < limit)
      (stops : Stops limit (Nat.ofDigitChars 10 digits 0) c fault) : Refused limit cs fault

theorem readDigits_eq_error_iff {limit value : Nat} {cs : List Char} {fault : Fault}
    (below : value < limit) :
    readDigits limit value cs = .error fault ↔
      ∃ digits c rest, cs = digits ++ c :: rest ∧ (∀ d ∈ digits, d.isDigit = true) ∧
        Nat.ofDigitChars 10 digits value < limit ∧
        Stops limit (Nat.ofDigitChars 10 digits value) c fault := by
  induction cs generalizing value with
  | nil =>
    rw [readDigits]
    constructor
    · intro h
      cases h
    · rintro ⟨digits, c, rest, parts, -⟩
      exact absurd parts.symm (by simp)
  | cons c cs ih =>
    -- Reading stops at the first character exactly when that cannot stand there.
    have stops_here (stops : Stops limit value c fault) :
        ∃ digits d rest, c :: cs = digits ++ d :: rest ∧ (∀ d ∈ digits, d.isDigit = true) ∧
          Nat.ofDigitChars 10 digits value < limit ∧
          Stops limit (Nat.ofDigitChars 10 digits value) d fault :=
      ⟨[], c, cs, rfl, List.forall_mem_nil _, by rwa [Nat.ofDigitChars_nil],
        by rwa [Nat.ofDigitChars_nil]⟩
    cases digit : c.isDigit with
    | false =>
      rw [readDigits, digit?_of_not_isDigit digit]
      constructor
      · intro h
        cases h
        exact stops_here (.invalidDigit digit)
      · rintro ⟨_ | ⟨d, digits⟩, e, rest, parts, all, -, stops⟩
        · cases parts
          cases stops with
          | invalidDigit => rfl
          | tooLarge isDigit => rw [digit] at isDigit; cases isDigit
        · cases parts
          rw [all c List.mem_cons_self] at digit
          cases digit
    | true =>
      rw [readDigits, digit?_of_isDigit digit, Nat.mul_comm value 10]
      simp only
      split
      · next fits =>
        rw [ih fits]
        constructor
        · rintro ⟨digits, e, rest, rfl, all, below', stops⟩
          refine ⟨c :: digits, e, rest, rfl, List.forall_mem_cons.mpr ⟨digit, all⟩, ?_, ?_⟩
          · rwa [Nat.ofDigitChars_cons]
          · rwa [Nat.ofDigitChars_cons]
        · rintro ⟨_ | ⟨d, digits⟩, e, rest, parts, all, below', stops⟩
          · cases parts
            rw [Nat.ofDigitChars_nil] at stops
            cases stops with
            | invalidDigit other => rw [digit] at other; cases other
            | tooLarge _ large => exact absurd fits (Nat.not_lt.mpr large)
          · cases parts
            rw [Nat.ofDigitChars_cons] at below' stops
            exact ⟨digits, e, rest, rfl, fun d member => all d (List.mem_cons_of_mem c member),
              below', stops⟩
      · next large =>
        constructor
        · intro h
          cases h
          exact stops_here (.tooLarge digit (Nat.not_lt.mp large))
        · rintro ⟨_ | ⟨d, digits⟩, e, rest, parts, all, below', stops⟩
          · cases parts
            rw [Nat.ofDigitChars_nil] at stops
            cases stops with
            | invalidDigit other => rw [digit] at other; cases other
            | tooLarge => rfl
          · cases parts
            rw [Nat.ofDigitChars_cons] at below'
            have grows := le_ofDigitChars digits (10 * value + (c.toNat - '0'.toNat))
            omega

theorem read_eq_error_iff {limit : Nat} {cs : List Char} {fault : Fault} (positive : 0 < limit) :
    read limit cs = .error fault ↔ Refused limit cs fault := by
  have digits (ds : List Char) (given : cs ≠ []) (after : unsigned cs = ds) :
      readDigits limit 0 ds = .error fault ↔ Refused limit cs fault := by
    rw [readDigits_eq_error_iff positive]
    constructor
    · rintro ⟨digits, c, rest, rfl, all, below, stops⟩
      exact .stopped after all below stops
    · rintro (nothing | ⟨parts, all, below, stops⟩)
      · exact absurd nothing given
      · exact ⟨_, _, _, after.symm.trans parts, all, below, stops⟩
  unfold read
  split
  · constructor
    · intro h
      cases h
      exact .empty rfl
    · rintro (nothing | ⟨parts, -, -, -⟩)
      · rfl
      · exact absurd parts (by simp [unsigned])
  · have lone : readDigits limit 0 ['+'] = .error .invalidDigit := rfl
    rw [← lone]
    exact digits ['+'] (List.cons_ne_nil _ _) rfl
  · next c rest => exact digits (c :: rest) (List.cons_ne_nil _ _) rfl
  · next c rest lone signed =>
    refine digits (c :: rest) (List.cons_ne_nil _ _) ?_
    unfold unsigned
    split
    · next d ds same =>
      cases same
      exact (signed d ds rfl rfl).elim
    · rfl

theorem readUInt32_eq_error_iff {cs : List Char} {fault : Fault} :
    readUInt32 cs = .error fault ↔ Refused UInt32.size cs fault := by
  rw [readUInt32, map_eq_error_iff, read_eq_error_iff (by decide)]

theorem readUInt64_eq_error_iff {cs : List Char} {fault : Fault} :
    readUInt64 cs = .error fault ↔ Refused UInt64.size cs fault := by
  rw [readUInt64, map_eq_error_iff, read_eq_error_iff (by decide)]

/-- The digits of a number are a numeral of it. -/
theorem denotes_toDigits (n : Nat) : Denotes (Nat.toDigits 10 n) n :=
  ⟨Nat.toDigits 10 n, .inl rfl, Nat.toDigits_ne_nil,
    fun _ member => Nat.isDigit_of_mem_toDigits (by decide) (by decide) member,
    Nat.ofDigitChars_ten_toDigits⟩

end ProcessAccounting.Text.Numeral
