import ProcessAccounting.Proofs.Text.Lossy
import ProcessAccounting.Text.Pieces

/-!
# Separators and lossy decoding

An ASCII character of a decoded text is an ASCII byte of its bytes: what the decoder puts together
from several bytes lies beyond ASCII, and so does the replacement character.  Hence it does not
matter whether bytes are cut at an ASCII byte before they are decoded, or the text is cut
afterwards, even where a cut goes through an unfinished character: `splitOn_decode`.
-/

namespace ProcessAccounting.Text

namespace Lossy

/-- All numbers from `least` to `greatest`, with six more bits for each byte that is still owed,
are characters beyond ASCII. -/
def BeyondAscii : Nat → Nat → Nat → Prop
  | 0, least, greatest =>
    0x80 ≤ least ∧ (greatest < 0xD800 ∨ 0xE000 ≤ least ∧ greatest < 0x110000)
  | owed + 1, least, greatest => BeyondAscii owed (least * 64) (greatest * 64 + 63)

theorem BeyondAscii.mono {owed least greatest least' greatest' : Nat}
    (beyond : BeyondAscii owed least greatest) (above : least ≤ least')
    (below : greatest' ≤ greatest) : BeyondAscii owed least' greatest' := by
  induction owed generalizing least greatest least' greatest' with
  | zero =>
    simp only [BeyondAscii] at beyond ⊢
    omega
  | succ owed ih => exact ih beyond (by omega) (by omega)

/-- Whatever bytes complete the character, it lies beyond ASCII. -/
def Unfinished.Sound (u : Unfinished) : Prop :=
  BeyondAscii u.owedAfterNext (u.bits * 64 + (u.least.toNat - 0x80))
    (u.bits * 64 + (u.greatest.toNat - 0x80))

/-- What a byte gives: it is the only one that an ASCII character comes from, and a character
that it leaves unfinished will lie beyond ASCII. -/
structure Honest (b : UInt8) (output : List Char × State) : Prop where
  ascii : ∀ c ∈ output.1, c.toNat < 0x80 → b.toNat = c.toNat
  sound : ∀ u ∈ output.2, u.Sound

variable {b : UInt8}

theorem toNat_ofNat {n : Nat} (valid : n.isValidChar) : (Char.ofNat n).toNat = n := by
  rw [Char.ofNat, dif_pos valid]
  rfl

theorem honest_of_unfinished {u : Unfinished} (sound : u.Sound) : Honest b ([], some u) where
  ascii := by simp
  sound := by simpa using sound

theorem honest_replacement : Honest b ([replacement], none) where
  ascii := by simp [replacement]
  sound := by simp

theorem honest_ascii (ascii : b.toNat < 0x80) : Honest b ([Char.ofNat b.toNat], none) where
  ascii := by
    have valid : b.toNat.isValidChar := .inl (by omega)
    simp [toNat_ofNat valid]
  sound := by simp

/-- A character completed from bytes that were allowed to come next is beyond ASCII. -/
theorem honest_of_completed {n : Nat} (beyond : BeyondAscii 0 n n) :
    Honest b ([Char.ofNat n], none) where
  ascii := by
    simp only [BeyondAscii] at beyond
    have valid : n.isValidChar := by
      simp only [Nat.isValidChar]
      omega
    simp only [List.mem_singleton, forall_eq, toNat_ofNat valid]
    omega
  sound := by simp

theorem honest_start (b : UInt8) : Honest b (start b) := by
  simp only [start, UInt8.lt_iff_toNat_lt, ← UInt8.toNat_inj, UInt8.reduceToNat]
  split
  case isTrue ascii => exact honest_ascii ascii
  split
  case isTrue => exact honest_replacement
  -- The lead bytes of two, three and four, where some of them narrow the range of the next byte.
  iterate 7
    split
    case isTrue =>
      apply honest_of_unfinished
      simp only [Unfinished.Sound, BeyondAscii, UInt8.reduceToNat]
      omega
  exact honest_replacement

theorem honest_step {state : State} (sound : ∀ u ∈ state, u.Sound) (b : UInt8) :
    Honest b (step state b) := by
  cases state with
  | none => exact honest_start b
  | some u =>
    have reached : u.Sound := sound u rfl
    simp only [step]
    split
    case isFalse =>
      have fresh := honest_start b
      refine ⟨?_, fresh.sound⟩
      intro c given
      rcases List.mem_cons.mp given with rfl | given
      · simp [replacement]
      · exact fresh.ascii c given
    case isTrue takes =>
      rw [UInt8.le_iff_toNat_le, UInt8.le_iff_toNat_le] at takes
      have inside : BeyondAscii u.owedAfterNext (u.bits * 64 + (b.toNat - 0x80))
          (u.bits * 64 + (b.toNat - 0x80)) := reached.mono (by omega) (by omega)
      cases owed : u.owedAfterNext with
      | zero =>
        rw [owed] at inside
        exact honest_of_completed inside
      | succ owed =>
        rw [owed] at inside
        apply honest_of_unfinished
        simpa [Unfinished.Sound, BeyondAscii] using inside

theorem exists_of_mem_decodeFrom {state : State} {bytes : List UInt8} {c : Char}
    (sound : ∀ u ∈ state, u.Sound) (given : c ∈ decodeFrom state bytes) (ascii : c.toNat < 0x80) :
    ∃ b ∈ bytes, b.toNat = c.toNat := by
  induction bytes generalizing state with
  | nil =>
    cases state with
    | none => simp [decodeFrom, finish] at given
    | some u =>
      have only : c = replacement := by simpa [decodeFrom, finish] using given
      simp [only, replacement] at ascii
  | cons b bytes ih =>
    have honest := honest_step sound b
    rw [decodeFrom, List.mem_append] at given
    rcases given with now | later
    · exact ⟨b, List.mem_cons_self, honest.ascii c now ascii⟩
    · obtain ⟨b', member, same⟩ := ih honest.sound later
      exact ⟨b', List.mem_cons_of_mem b member, same⟩

/-- ASCII characters of a text are there as bytes. -/
theorem mem_decode_iff_of_ascii {bytes : List UInt8} {b : UInt8} (ascii : b < 0x80) :
    Char.ofNat b.toNat ∈ decode bytes ↔ b ∈ bytes := by
  constructor
  · intro given
    have below : b.toNat < 0x80 := by simpa [UInt8.lt_iff_toNat_lt] using ascii
    have valid : b.toNat.isValidChar := .inl (by omega)
    have value : (Char.ofNat b.toNat).toNat = b.toNat := toNat_ofNat valid
    have between : ∀ u ∈ (none : State), u.Sound := by simp
    obtain ⟨b', member, same⟩ := exists_of_mem_decodeFrom between given (by rwa [value])
    rwa [UInt8.toNat_inj.mp (same.trans value)] at member
  · exact mem_decode_of_ascii ascii

/-- Cutting a decoded text at an ASCII character gives what the bytes between the bytes of that
character decode to. -/
theorem splitOn_decode {b : UInt8} (ascii : b < 0x80) (bytes : List UInt8) :
    (decode bytes).splitOn (Char.ofNat b.toNat) = (bytes.splitOn b).map decode := by
  by_cases member : b ∈ bytes
  · obtain ⟨before, after, parts⟩ := List.append_of_mem member
    have shorter : before.length < bytes.length ∧ after.length < bytes.length := by
      rw [parts, List.length_append, List.length_cons]
      omega
    rw [parts, decode_append_ascii before after ascii, List.splitOn_append_cons_self,
      List.splitOn_append_cons_self, List.map_append, splitOn_decode ascii before,
      splitOn_decode ascii after]
  · have absent : Char.ofNat b.toNat ∉ decode bytes := by rwa [mem_decode_iff_of_ascii ascii]
    rw [List.splitOn_eq_singleton absent, List.splitOn_eq_singleton member]
    rfl
termination_by bytes.length
decreasing_by
  · exact shorter.1
  · exact shorter.2

end Lossy

variable {α : Type}

theorem pieces_eq_splitOnP (separates : α → Bool) (xs : List α) :
    pieces separates xs = xs.splitOnP separates := by
  induction xs with
  | nil => rfl
  | cons x xs ih =>
    rw [pieces, ih, List.splitOnP_cons_eq_if_modifyHead]
    split
    · rfl
    · cases cut : xs.splitOnP separates with
      | nil => exact absurd cut (List.splitOnP_ne_nil _ _)
      | cons piece others => rfl

theorem filledPieces_eq_splitOn [BEq α] (a : α) (xs : List α) :
    filledPieces (· == a) xs = (xs.splitOn a).filter (!·.isEmpty) := by
  rw [filledPieces, pieces_eq_splitOnP]
  rfl

end ProcessAccounting.Text
