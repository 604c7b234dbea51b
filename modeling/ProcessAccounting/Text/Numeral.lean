/-!
# Decimal numerals

Unsigned decimal numbers below a limit.  A numeral is one or more of the digits
`0` to `9`, after at most one plus sign; leading zeros are allowed, and a minus
sign never is.  The digits are read from the left, and the first character at
which the text stops being a numeral below the limit decides the fault; a
character that is no digit is never judged by its size.
-/

namespace ProcessAccounting.Text.Numeral

/-- Why a text is not a numeral below the limit. -/
inductive Fault where
  /-- There is no character at all. -/
  | empty
  /-- A character is no digit, or a sign stands alone. -/
  | invalidDigit
  /-- The digits read so far reach the limit. -/
  | tooLarge
deriving DecidableEq

def Fault.message : Fault → String
  | .empty => "cannot parse integer from empty string"
  | .invalidDigit => "invalid digit found in string"
  | .tooLarge => "number too large to fit in target type"

/-- The value of a decimal digit. -/
def digit? (c : Char) : Option Nat :=
  if '0' ≤ c ∧ c ≤ '9' then some (c.toNat - '0'.toNat) else none

/-- Reads the remaining digits after those that make up `value`. -/
def readDigits (limit value : Nat) : List Char → Except Fault Nat
  | [] => .ok value
  | c :: rest =>
    match digit? c with
    | none => .error .invalidDigit
    | some d =>
      if value * 10 + d < limit then readDigits limit (value * 10 + d) rest
      else .error .tooLarge

/-- Reads a numeral below the limit. -/
def read (limit : Nat) : List Char → Except Fault Nat
  | [] => .error .empty
  | ['+'] => .error .invalidDigit
  | '+' :: c :: rest => readDigits limit 0 (c :: rest)
  | c :: rest => readDigits limit 0 (c :: rest)

/-- Reads a 32-bit number. -/
def readUInt32 (cs : List Char) : Except Fault UInt32 :=
  (read UInt32.size cs).map UInt32.ofNat

/-- Reads a 64-bit number. -/
def readUInt64 (cs : List Char) : Except Fault UInt64 :=
  (read UInt64.size cs).map UInt64.ofNat

end ProcessAccounting.Text.Numeral
