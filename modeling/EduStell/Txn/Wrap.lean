/-
  Signed 64-bit amounts that wrap, under a CHECK that they are not negative.

  A sum of two amounts that are not negative either fits, and then it is the sum of the integers, or
  it wraps to a NEGATIVE number: so `CHECK (total >= 0)` catches exactly the overflow.
-/
import Mathlib.Algebra.Order.Ring.Int

namespace Txn

variable {a b : Int64}

/-- A signed value is non-negative when its integer is. -/
theorem toInt_nonneg : 0 ≤ a ↔ 0 ≤ a.toInt := by
  rw [Int64.le_iff_toInt_le, Int64.toInt_zero]

/-- A sum that passes the CHECK has not wrapped. -/
theorem toInt_add_of_nonneg (ha : 0 ≤ a) (hb : 0 ≤ b) (h : 0 ≤ a + b) :
    (a + b).toInt = a.toInt + b.toInt := by
  have h1 := Int64.toInt_lt a
  have h2 := Int64.toInt_lt b
  rw [toInt_nonneg] at ha hb h
  rw [Int64.toInt_add, Int.bmod_def] at *
  omega

/-- A sum that fits passes the CHECK. -/
theorem nonneg_add_of_lt (ha : 0 ≤ a) (hb : 0 ≤ b) (h : a.toInt + b.toInt < 2 ^ 63) : 0 ≤ a + b := by
  rw [toInt_nonneg] at ha hb ⊢
  rw [Int64.toInt_add, Int.bmod_def]
  omega

/-- A sum that does not fit wraps below zero. -/
theorem neg_add_of_le (ha : 0 ≤ a) (hb : 0 ≤ b) (h : 2 ^ 63 ≤ a.toInt + b.toInt) : a + b < 0 := by
  have h1 := Int64.toInt_lt a
  have h2 := Int64.toInt_lt b
  rw [toInt_nonneg] at ha hb
  rw [Int64.lt_iff_toInt_lt, Int64.toInt_zero, Int64.toInt_add, Int.bmod_def]
  omega

/-- A difference that stays above zero does not wrap. -/
theorem nonneg_sub_of_le (hb : 0 ≤ b) (h : b ≤ a) : 0 ≤ a - b := by
  rw [toInt_nonneg, Int64.toInt_sub_of_le a b hb h]
  rw [Int64.le_iff_toInt_le] at h
  omega

/-- A difference of two amounts that are not negative does not wrap, whatever its sign. -/
theorem toInt_sub_of_nonneg (ha : 0 ≤ a) (hb : 0 ≤ b) : (a - b).toInt = a.toInt - b.toInt := by
  have h1 := Int64.toInt_lt a
  have h2 := Int64.toInt_lt b
  rw [toInt_nonneg] at ha hb
  rw [Int64.toInt_sub, Int.bmod_def]
  omega

/-- Two subtractions in a row do not wrap as long as what is subtracted fits in one word. -/
theorem toInt_sub_sub_of_lt {c : Int64} (hc : 0 ≤ c) (ha : 0 ≤ a) (hb : 0 ≤ b)
    (h : a.toInt + b.toInt < 2 ^ 63) : (c - a - b).toInt = c.toInt - a.toInt - b.toInt := by
  have h1 := Int64.toInt_lt c
  rw [toInt_nonneg] at hc ha hb
  rw [Int64.toInt_sub, Int64.toInt_sub]
  rw [Int.bmod_def, Int.bmod_def]
  omega

end Txn
