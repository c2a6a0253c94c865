import CatalogSearch.Decimal.Binary

/-!
# Rounding integers

The binary number nearest to an integer of 64 bits is finite (`Double.isFinite_ofInt`): its mantissa
has fifty-three bits, so that its exponent is at most eleven.
-/

namespace CatalogSearch.Double

theorem magnitude_ofMagnitude (negative : Bool) {m : Nat} (small : m < 0x8000000000000000) :
    (ofMagnitude negative m).magnitude = m := by
  cases negative <;>
    simp only [magnitude, pattern, ofMagnitude, UInt64.toNat_ofNat', if_true, Bool.false_eq_true,
      if_false] <;>
    omega

theorem roundDiv_le (num den : Nat) : roundDiv num den ≤ num / den + 1 := by
  simp only [roundDiv]
  split
  · omega
  · split <;> omega

theorem binaryLog_one {num : Nat} (pos : num ≠ 0) : binaryLog num 1 = Nat.log2 num := by
  have below : ¬num < 1 * Nat.pow 2 (Nat.log2 num) := by
    rw [Nat.one_mul]
    exact Nat.not_lt.2 (Nat.log2_self_le pos)
  have one : ((Nat.log2 num : Int) - Nat.log2 1) = Int.ofNat (Nat.log2 num) := by
    simp [show Nat.log2 1 = 0 by decide]
  rw [binaryLog, one]
  simp only [below]
  rfl

/-- A pattern below that of infinity is a finite number. -/
theorem isFinite_of_magnitude {m : Nat} (negative : Bool) (less : m < infiniteMagnitude) :
    (if infiniteMagnitude ≤ m then infinity negative
      else ofMagnitude negative m).isFinite = true := by
  have small : m < 0x7FF0000000000000 := less
  rw [if_neg (Nat.not_le.2 less), isFinite, magnitude_ofMagnitude negative (by omega)]
  exact decide_eq_true less

/-! ## Mantissas -/

/-- The mantissa of an integer of more than fifty-three bits, which loses bits. -/
theorem roundDiv_of_large {num k : Nat} (upper : num < Nat.pow 2 (k + 53)) :
    roundDiv num (1 * Nat.pow 2 k) ≤ 0x20000000000000 := by
  have quotient : num / 2 ^ k < 2 ^ 53 := by
    refine Nat.div_lt_of_lt_mul ?_
    rw [← Nat.pow_add]
    exact upper
  have rounded := roundDiv_le num (1 * Nat.pow 2 k)
  rw [Nat.one_mul] at rounded ⊢
  exact Nat.le_trans rounded quotient

/-- The mantissa of an integer of fewer bits, which is exact. -/
theorem roundDiv_of_small {num k : Nat} (upper : num * Nat.pow 2 (k + 1) < 0x20000000000000) :
    roundDiv (num * Nat.pow 2 (k + 1)) 1 ≤ 0x20000000000000 := by
  have rounded := roundDiv_le (num * Nat.pow 2 (k + 1)) 1
  rw [Nat.div_one] at rounded
  exact Nat.le_trans rounded upper

/-! ## Integers -/

/-- The integers of 64 bits are far from the end of the binary numbers. -/
theorem isFinite_nearest {num : Nat} (negative : Bool) (small : num < 0x10000000000000000) :
    (nearest negative num 1).isFinite = true := by
  by_cases zero : num = 0
  · rw [nearest, if_pos zero]
    cases negative <;> decide
  have log : Nat.log2 num < 64 := (Nat.log2_lt zero).2 small
  have upper : num < 2 ^ (Nat.log2 num + 1) := Nat.lt_log2_self
  have infinite : infiniteMagnitude = 0x7FF0000000000000 := rfl
  rw [nearest, if_neg zero, binaryLog_one zero]
  by_cases large : 52 ≤ Nat.log2 num
  · obtain ⟨k, same⟩ := Nat.exists_eq_add_of_le large
    have exponent : max ((Nat.log2 num : Int) - 52) (-1074) = Int.ofNat k := by
      rw [same, Int.ofNat_eq_natCast]
      omega
    rw [same, show 52 + k + 1 = k + 53 by omega] at upper
    have mantissa := roundDiv_of_large upper
    rw [exponent]
    refine isFinite_of_magnitude negative ?_
    show (Int.ofNat k + 1074).toNat * 0x10000000000000 + roundDiv num (1 * Nat.pow 2 k) < _
    rw [Int.ofNat_eq_natCast]
    omega
  · obtain ⟨k, same⟩ := Nat.exists_eq_add_of_lt (Nat.not_le.1 large)
    have exponent : max ((Nat.log2 num : Int) - 52) (-1074) = Int.negSucc k := by
      rw [Int.negSucc_eq]
      omega
    have scaled := Nat.mul_lt_mul_of_pos_right upper (Nat.two_pow_pos (k + 1))
    rw [← Nat.pow_add, show Nat.log2 num + 1 + (k + 1) = 53 by omega] at scaled
    have mantissa := roundDiv_of_small scaled
    rw [exponent]
    refine isFinite_of_magnitude negative ?_
    show (Int.negSucc k + 1074).toNat * 0x10000000000000 + roundDiv (num * Nat.pow 2 (k + 1)) 1 < _
    rw [Int.negSucc_eq]
    omega

theorem isFinite_ofInt {n : Int} (small : n.natAbs < 0x10000000000000000) :
    (ofInt n).isFinite = true := isFinite_nearest _ small

end CatalogSearch.Double
