import ProcessAccounting.Proofs.Text.Lossy

/-!
# Decoding what is UTF-8

Lossy decoding loses nothing when there is nothing to lose: the UTF-8 of a text decodes to the
text.  A lead byte says how many bytes the character has and narrows the range of the next one,
and every later byte adds six bits.  The main statement is `decode_toUTF8`.
-/

namespace ProcessAccounting.Text.Lossy

/-- A byte that can stand inside a character. -/
def IsTail (b : UInt8) : Prop := 0x80 ≤ b.toNat ∧ b.toNat ≤ 0xBF

/-- The byte lies in the range of what may come next. -/
def Unfinished.Takes (u : Unfinished) (b : UInt8) : Prop := u.least ≤ b ∧ b ≤ u.greatest

variable {u : Unfinished} {b c d e : UInt8} (rest : List UInt8)

theorem Unfinished.takes_iff :
    u.Takes b ↔ u.least.toNat ≤ b.toNat ∧ b.toNat ≤ u.greatest.toNat := by
  simp [Takes, UInt8.le_iff_toNat_le]

theorem step_of_takes (takes : u.Takes b) :
    step (some u) b =
      match u.owedAfterNext with
      | 0 => ([Char.ofNat (u.bits * 64 + (b.toNat - 0x80))], none)
      | owed + 1 =>
        ([], some { bits := u.bits * 64 + (b.toNat - 0x80), owedAfterNext := owed }) :=
  if_pos takes

theorem takes_of_isTail {bits owed : Nat} (tail : IsTail b) :
    Unfinished.Takes { bits, owedAfterNext := owed } b :=
  Unfinished.takes_iff.mpr tail

/-- The last byte that is owed completes the character. -/
theorem decodeFrom_last (takes : u.Takes b) (last : u.owedAfterNext = 0) :
    decodeFrom (some u) (b :: rest) =
      Char.ofNat (u.bits * 64 + (b.toNat - 0x80)) :: decode rest := by
  simp [decodeFrom, step_of_takes takes, last, decode]

/-- After a byte that is not the last one, any byte may follow that stands inside a character. -/
theorem decodeFrom_next {owed : Nat} (takes : u.Takes b) (more : u.owedAfterNext = owed + 1) :
    decodeFrom (some u) (b :: rest) = decodeFrom
      (some { bits := u.bits * 64 + (b.toNat - 0x80), owedAfterNext := owed }) rest := by
  simp [decodeFrom, step_of_takes takes, more]

theorem decode_of_start (started : start b = ([], some u)) :
    decode (b :: rest) = decodeFrom (some u) rest := by
  simp [decode, decodeFrom, step, started]

theorem start_of_two (low : 0xC2 ≤ b.toNat) (high : b.toNat < 0xE0) :
    start b = ([], some { bits := b.toNat - 0xC0, owedAfterNext := 0 }) := by
  simp only [start, UInt8.lt_iff_toNat_lt, UInt8.reduceToNat]
  rw [if_neg (by omega), if_neg (by omega), if_pos high]

/-- The lead byte of three leaves out the characters that take two bytes, and the surrogates. -/
theorem start_of_three (low : 0xE0 ≤ b.toNat) (high : b.toNat < 0xF0) :
    ∃ u, start b = ([], some u) ∧ u.bits = b.toNat - 0xE0 ∧ u.owedAfterNext = 1 ∧
      ∀ c, IsTail c → (b.toNat = 0xE0 → 0xA0 ≤ c.toNat) → (b.toNat = 0xED → c.toNat ≤ 0x9F) →
        u.Takes c := by
  simp only [start, UInt8.lt_iff_toNat_lt, ← UInt8.toNat_inj, UInt8.reduceToNat]
  rw [if_neg (by omega), if_neg (by omega), if_neg (by omega)]
  by_cases shortest : b.toNat = 0xE0
  · rw [if_pos shortest]
    refine ⟨_, rfl, by simp [shortest], rfl, ?_⟩
    intro c tail above _
    exact Unfinished.takes_iff.mpr ⟨above shortest, tail.2⟩
  rw [if_neg shortest]
  by_cases surrogate : b.toNat = 0xED
  · rw [if_pos surrogate]
    refine ⟨_, rfl, by simp [surrogate], rfl, ?_⟩
    intro c tail _ below
    exact Unfinished.takes_iff.mpr ⟨tail.1, below surrogate⟩
  rw [if_neg surrogate, if_pos high]
  refine ⟨_, rfl, rfl, rfl, ?_⟩
  intro c tail _ _
  exact takes_of_isTail tail

/-- The lead byte of four leaves out the characters that take three bytes, and what is beyond the
last character. -/
theorem start_of_four (low : 0xF0 ≤ b.toNat) (high : b.toNat ≤ 0xF4) :
    ∃ u, start b = ([], some u) ∧ u.bits = b.toNat - 0xF0 ∧ u.owedAfterNext = 2 ∧
      ∀ c, IsTail c → (b.toNat = 0xF0 → 0x90 ≤ c.toNat) → (b.toNat = 0xF4 → c.toNat ≤ 0x8F) →
        u.Takes c := by
  simp only [start, UInt8.lt_iff_toNat_lt, ← UInt8.toNat_inj, UInt8.reduceToNat]
  rw [if_neg (by omega), if_neg (by omega), if_neg (by omega), if_neg (by omega),
    if_neg (by omega), if_neg (by omega)]
  by_cases shortest : b.toNat = 0xF0
  · rw [if_pos shortest]
    refine ⟨_, rfl, by simp [shortest], rfl, ?_⟩
    intro c tail above _
    exact Unfinished.takes_iff.mpr ⟨above shortest, tail.2⟩
  rw [if_neg shortest]
  by_cases last : b.toNat = 0xF4
  · rw [if_neg (by omega), if_pos last]
    refine ⟨_, rfl, by simp [last], rfl, ?_⟩
    intro c tail _ below
    exact Unfinished.takes_iff.mpr ⟨tail.1, below last⟩
  rw [if_pos (by omega)]
  refine ⟨_, rfl, rfl, rfl, ?_⟩
  intro c tail _ _
  exact takes_of_isTail tail

theorem decode_two (low : 0xC2 ≤ b.toNat) (high : b.toNat < 0xE0) (tail : IsTail c) :
    decode (b :: c :: rest) =
      Char.ofNat ((b.toNat - 0xC0) * 64 + (c.toNat - 0x80)) :: decode rest := by
  rw [decode_of_start _ (start_of_two low high), decodeFrom_last _ (takes_of_isTail tail) rfl]

theorem decode_three (low : 0xE0 ≤ b.toNat) (high : b.toNat < 0xF0) (tail : IsTail c)
    (above : b.toNat = 0xE0 → 0xA0 ≤ c.toNat) (below : b.toNat = 0xED → c.toNat ≤ 0x9F)
    (tail' : IsTail d) :
    decode (b :: c :: d :: rest) = Char.ofNat
      (((b.toNat - 0xE0) * 64 + (c.toNat - 0x80)) * 64 + (d.toNat - 0x80)) :: decode rest := by
  obtain ⟨u, started, bits, owed, takes⟩ := start_of_three low high
  rw [decode_of_start _ started, decodeFrom_next _ (takes c tail above below) owed, bits,
    decodeFrom_last _ (takes_of_isTail tail') rfl]

theorem decode_four (low : 0xF0 ≤ b.toNat) (high : b.toNat ≤ 0xF4) (tail : IsTail c)
    (above : b.toNat = 0xF0 → 0x90 ≤ c.toNat) (below : b.toNat = 0xF4 → c.toNat ≤ 0x8F)
    (tail' : IsTail d) (tail'' : IsTail e) :
    decode (b :: c :: d :: e :: rest) = Char.ofNat
      ((((b.toNat - 0xF0) * 64 + (c.toNat - 0x80)) * 64 + (d.toNat - 0x80)) * 64 +
        (e.toNat - 0x80)) :: decode rest := by
  obtain ⟨u, started, bits, owed, takes⟩ := start_of_four low high
  rw [decode_of_start _ started, decodeFrom_next _ (takes c tail above below) owed, bits,
    decodeFrom_next _ (takes_of_isTail tail') rfl, decodeFrom_last _ (takes_of_isTail tail'') rfl]

theorem toNat_tail (n : Nat) : (UInt8.ofNat (n % 64 + 0x80)).toNat = n % 64 + 0x80 := by
  rw [UInt8.toNat_ofNat']
  omega

theorem isTail_ofNat (n : Nat) : IsTail (UInt8.ofNat (n % 64 + 0x80)) := by
  rw [IsTail, toNat_tail]
  omega

/-- The bytes of a character are decoded to it, whatever follows. -/
theorem decode_utf8EncodeChar (char : Char) :
    decode (String.utf8EncodeChar char ++ rest) = char :: decode rest := by
  have valid : char.toNat < 0xD800 ∨ 0xDFFF < char.toNat ∧ char.toNat < 0x110000 := char.valid
  have char_eq : char = Char.ofNat char.toNat := (Char.ofNat_toNat char).symm
  have value : char.val.toNat = char.toNat := rfl
  simp only [String.utf8EncodeChar, value]
  generalize char.toNat = n at valid char_eq ⊢
  rw [char_eq, apply_ite (· ++ rest), apply_ite (· ++ rest), apply_ite (· ++ rest)]
  simp only [List.cons_append, List.nil_append]
  split
  case isTrue one =>
    have byte : (UInt8.ofNat n).toNat = n := by
      rw [UInt8.toNat_ofNat']
      omega
    have ascii : UInt8.ofNat n < 0x80 := by
      simp only [UInt8.lt_iff_toNat_lt, byte, UInt8.reduceToNat]
      omega
    rw [decode_cons_ascii rest ascii, byte]
  split
  case isTrue two =>
    have lead : (UInt8.ofNat (n / 64 % 32 + 0xC0)).toNat = n / 64 % 32 + 0xC0 := by
      rw [UInt8.toNat_ofNat']
      omega
    have decoded := decode_two rest (b := .ofNat (n / 64 % 32 + 0xC0)) (by omega) (by omega)
      (isTail_ofNat n)
    rw [lead, toNat_tail] at decoded
    have bits : (n / 64 % 32 + 0xC0 - 0xC0) * 64 + (n % 64 + 0x80 - 0x80) = n := by omega
    rw [decoded, bits]
  split
  case isTrue three =>
    have lead : (UInt8.ofNat (n / 4096 % 16 + 0xE0)).toNat = n / 4096 % 16 + 0xE0 := by
      rw [UInt8.toNat_ofNat']
      omega
    have next := toNat_tail (n / 64)
    have decoded := decode_three rest (b := .ofNat (n / 4096 % 16 + 0xE0)) (by omega) (by omega)
      (isTail_ofNat (n / 64)) (by omega) (by omega) (isTail_ofNat n)
    rw [lead, next, toNat_tail] at decoded
    have bits : ((n / 4096 % 16 + 0xE0 - 0xE0) * 64 + (n / 64 % 64 + 0x80 - 0x80)) * 64 +
        (n % 64 + 0x80 - 0x80) = n := by omega
    rw [decoded, bits]
  case isFalse =>
    have lead : (UInt8.ofNat (n / 262144 % 8 + 0xF0)).toNat = n / 262144 % 8 + 0xF0 := by
      rw [UInt8.toNat_ofNat']
      omega
    have next := toNat_tail (n / 4096)
    have decoded := decode_four rest (b := .ofNat (n / 262144 % 8 + 0xF0)) (by omega) (by omega)
      (isTail_ofNat (n / 4096)) (by omega) (by omega) (isTail_ofNat (n / 64)) (isTail_ofNat n)
    rw [lead, next, toNat_tail, toNat_tail] at decoded
    have bits : (((n / 262144 % 8 + 0xF0 - 0xF0) * 64 + (n / 4096 % 64 + 0x80 - 0x80)) * 64 +
        (n / 64 % 64 + 0x80 - 0x80)) * 64 + (n % 64 + 0x80 - 0x80) = n := by omega
    rw [decoded, bits]

/-- The bytes of a text are decoded to it. -/
theorem decode_toUTF8 (text : String) : decode text.toUTF8.data.toList = text.toList := by
  have encoded : text.toUTF8.data.toList = text.toList.flatMap String.utf8EncodeChar := by
    rw [String.toUTF8_eq_toByteArray, ← String.ofList_toList (s := text),
      String.toByteArray_ofList, String.toList_ofList, List.utf8Encode, List.data_toByteArray]
  rw [encoded]
  induction text.toList with
  | nil => rfl
  | cons char chars ih => rw [List.flatMap_cons, decode_utf8EncodeChar, ih]

end ProcessAccounting.Text.Lossy
