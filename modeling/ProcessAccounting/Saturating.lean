/-!
# Saturating arithmetic

Memory sizes and tick counters are 64-bit words and ages are 32-bit words.  Sums
and products of them stop at the greatest word instead of wrapping, and
differences stop at zero.  Each operation is computed exactly on natural numbers
and then clamped, so `toNat_add`, `toNat_mul`, `toNat_sub` and `toNat_sum` state
the whole arithmetic: a total is the exact total, or the greatest word when the
exact total does not fit.
-/

namespace ProcessAccounting.Saturating

/-- The greatest 64-bit word. -/
def greatest : Nat := 18446744073709551615

/-- The number `n`, or the greatest 64-bit word when `n` does not fit. -/
def clamp (n : Nat) : UInt64 := .ofNatClamp n

/-- Clamping is the minimum with the greatest word. -/
@[simp] theorem toNat_clamp (n : Nat) : (clamp n).toNat = min greatest n := by
  unfold clamp greatest
  by_cases h : n < UInt64.size
  · rw [UInt64.toNat_ofNatClamp_of_lt h]
    simp only [UInt64.size] at h
    omega
  · rw [UInt64.ofNatClamp, dif_neg h]
    simp only [UInt64.size] at h ⊢
    simp only [UInt64.toNat_ofNatLT]
    omega

/-- Sum of two words, at most the greatest word. -/
def add (a b : UInt64) : UInt64 := clamp (a.toNat + b.toNat)

/-- Product of two words, at most the greatest word. -/
def mul (a b : UInt64) : UInt64 := clamp (a.toNat * b.toNat)

/-- Difference of two words, at least zero. -/
def sub (a b : UInt64) : UInt64 := if b ≤ a then a - b else 0

/-- Total of a list of words, clamped after every addition. -/
def sum (words : List UInt64) : UInt64 := words.foldl add 0

/-- The age after one more sighting, at most the greatest 32-bit word. -/
def next (age : UInt32) : UInt32 := .ofNatClamp (age.toNat + 1)

theorem toNat_add (a b : UInt64) : (add a b).toNat = min greatest (a.toNat + b.toNat) :=
  toNat_clamp _

theorem toNat_mul (a b : UInt64) : (mul a b).toNat = min greatest (a.toNat * b.toNat) :=
  toNat_clamp _

theorem toNat_sub (a b : UInt64) : (sub a b).toNat = a.toNat - b.toNat := by
  unfold sub
  split
  · next h => rw [UInt64.toNat_sub_of_le _ _ h]
  · next h =>
    have : a.toNat < b.toNat := by simpa [UInt64.le_iff_toNat_le] using h
    rw [UInt64.toNat_zero]
    omega

theorem toNat_le_greatest (a : UInt64) : a.toNat ≤ greatest := by
  have := a.toNat_lt
  unfold greatest
  omega

/-- The exact total of a list of words. -/
def total (words : List UInt64) : Nat := words.foldr (fun w rest => w.toNat + rest) 0

theorem total_nil : total [] = 0 := rfl

theorem total_cons (w : UInt64) (words : List UInt64) :
    total (w :: words) = w.toNat + total words := rfl

/-- Clamping after every addition gives the same total as clamping once. -/
theorem toNat_foldl_add (words : List UInt64) (start : UInt64) :
    (words.foldl add start).toNat = min greatest (start.toNat + total words) := by
  induction words generalizing start with
  | nil =>
    have := toNat_le_greatest start
    rw [List.foldl_nil, total_nil]
    omega
  | cons w ws ih =>
    rw [List.foldl_cons, ih, toNat_add, total_cons]
    omega

theorem toNat_sum (words : List UInt64) : (sum words).toNat = min greatest (total words) := by
  rw [sum, toNat_foldl_add, UInt64.toNat_zero, Nat.zero_add]

/-- An age grows by one until it reaches the greatest 32-bit word. -/
theorem toNat_next (age : UInt32) : (next age).toNat = min 4294967295 (age.toNat + 1) := by
  have hlt := age.toNat_lt
  unfold next
  by_cases h : age.toNat + 1 < UInt32.size
  · rw [UInt32.toNat_ofNatClamp_of_lt h]
    simp only [UInt32.size] at h
    omega
  · rw [UInt32.ofNatClamp, dif_neg h]
    simp only [UInt32.size] at h ⊢
    simp only [UInt32.toNat_ofNatLT]
    omega

end ProcessAccounting.Saturating
