/-!
# Lossy decoding of UTF-8

Bytes that are meant to be UTF-8 are turned into text whatever they are.  The
decoder is a machine that takes one byte at a time.  Between characters it has no
state; inside a character it knows the bits read so far, how many bytes are owed
and the range in which the next byte has to lie.  A byte outside that range ends
the unfinished character, which becomes one replacement character, and starts
anew; so each replacement character stands for a longest part that no character
can complete.

An ASCII byte is never inside a character.  Bytes around it are therefore decoded on
their own, which is `decode_append_ascii`.
-/

namespace ProcessAccounting.Text.Lossy

/-- The character that stands for bytes that are not UTF-8. -/
def replacement : Char := '\uFFFD'

/-- A character of which some bytes have been read and some are owed. -/
structure Unfinished where
  /-- The bits of the bytes read so far. -/
  bits : Nat
  /-- How many bytes are owed after the next one. -/
  owedAfterNext : Nat
  /-- The least byte that may come next. -/
  least : UInt8 := 0x80
  /-- The greatest byte that may come next. -/
  greatest : UInt8 := 0xBF
  /-- No byte inside a character is an ASCII character. -/
  ascii_lt : 0x80 ≤ least := by decide
deriving DecidableEq

/-- The decoder's state: between characters, or inside one. -/
abbrev State := Option Unfinished

/-- What a byte between two characters gives, and the state after it. -/
def start (b : UInt8) : List Char × State :=
  if b < 0x80 then ([Char.ofNat b.toNat], none)
  else if b < 0xC2 then ([replacement], none)
  else if b < 0xE0 then ([], some { bits := b.toNat - 0xC0, owedAfterNext := 0 })
  else if b = 0xE0 then ([], some { bits := 0, owedAfterNext := 1, least := 0xA0 })
  else if b = 0xED then ([], some { bits := 0x0D, owedAfterNext := 1, greatest := 0x9F })
  else if b < 0xF0 then ([], some { bits := b.toNat - 0xE0, owedAfterNext := 1 })
  else if b = 0xF0 then ([], some { bits := 0, owedAfterNext := 2, least := 0x90 })
  else if b < 0xF4 then ([], some { bits := b.toNat - 0xF0, owedAfterNext := 2 })
  else if b = 0xF4 then ([], some { bits := 4, owedAfterNext := 2, greatest := 0x8F })
  else ([replacement], none)

/-- What a byte gives in a state, and the state after it. -/
def step : State → UInt8 → List Char × State
  | none, b => start b
  | some u, b =>
    if u.least ≤ b ∧ b ≤ u.greatest then
      let bits := u.bits * 64 + (b.toNat - 0x80)
      match u.owedAfterNext with
      | 0 => ([Char.ofNat bits], none)
      | owed + 1 => ([], some { bits, owedAfterNext := owed })
    else (replacement :: (start b).1, (start b).2)

/-- What is left to give when the bytes end. -/
def finish : State → List Char
  | none => []
  | some _ => [replacement]

/-- Decodes the remaining bytes from a state. -/
def decodeFrom : State → List UInt8 → List Char
  | state, [] => finish state
  | state, b :: rest => (step state b).1 ++ decodeFrom (step state b).2 rest

/-- The characters of a byte string. -/
def decode (bytes : List UInt8) : List Char := decodeFrom none bytes

/-- An ASCII byte ends whatever came before it. -/
theorem step_ascii (state : State) {b : UInt8} (h : b < 0x80) :
    step state b = (finish state ++ [Char.ofNat b.toNat], none) := by
  cases state with
  | none => simp [step, start, finish, h]
  | some u =>
    have outside : ¬ (u.least ≤ b ∧ b ≤ u.greatest) := by
      rintro ⟨hle, -⟩
      have := u.ascii_lt
      simp only [UInt8.le_iff_toNat_le, UInt8.lt_iff_toNat_lt] at *
      omega
    simp [step, outside, start, finish, h]

theorem decodeFrom_append_ascii (state : State) (before after : List UInt8) {b : UInt8}
    (h : b < 0x80) :
    decodeFrom state (before ++ b :: after) =
      decodeFrom state before ++ Char.ofNat b.toNat :: decode after := by
  induction before generalizing state with
  | nil => simp [decodeFrom, step_ascii state h, decode]
  | cons a before ih => simp [decodeFrom, ih]

/-- The bytes before and after an ASCII byte are decoded on their own. -/
theorem decode_append_ascii (before after : List UInt8) {b : UInt8} (h : b < 0x80) :
    decode (before ++ b :: after) = decode before ++ Char.ofNat b.toNat :: decode after :=
  decodeFrom_append_ascii none before after h

end ProcessAccounting.Text.Lossy
