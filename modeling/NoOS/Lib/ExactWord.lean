import Mathlib.Algebra.Order.Ring.Int
import Mathlib.Data.UInt
import Mathlib.Tactic.Common

/-!
# Words that stand for integers

A word is the integer that its formula says, as long as every step of the formula stays in the range of the
words. The rules follow the operations of the formula.
-/

namespace ExactWord

/-- The word stands for the integer. -/
def Is (x : UInt32) (a : ℤ) : Prop := (x.toNat : ℤ) = a

/-- A quotient that is rounded up -/
def ceil (a b : ℤ) : ℤ := (a + b - 1) / b

def clamp (a low high : ℤ) : ℤ := max (min a high) low

variable {x y : UInt32} {a b k low high : ℤ}

lemma Is.of_toNat {n : ℕ} (h : x.toNat = n) : Is x n := congrArg Nat.cast h

lemma Is.nonneg (h : Is x a) : 0 ≤ a := h ▸ Int.natCast_nonneg _

lemma Is.add (hx : Is x a) (hy : Is y b) (h : a + b < 2 ^ 32) : Is (x + y) (a + b) := by
  rw [Is] at hx hy ⊢
  rw [UInt32.toNat_add]
  lia

lemma Is.sub (hx : Is x a) (hy : Is y b) (h : b ≤ a) : Is (x - y) (a - b) := by
  rw [Is] at hx hy ⊢
  rw [UInt32.toNat_sub_of_le x y (UInt32.le_iff_toNat_le.mpr (by lia))]
  lia

lemma Is.mul (hx : Is x a) (hy : Is y b) (h : a * b < 2 ^ 32) : Is (x * y) (a * b) := by
  rw [Is] at hx hy ⊢
  rw [← hx, ← hy] at h ⊢
  rw [UInt32.toNat_mul, Nat.mod_eq_of_lt (by exact_mod_cast h), Nat.cast_mul]

lemma Is.div (hx : Is x a) (hy : Is y b) : Is (x / y) (a / b) := by
  rw [Is] at hx hy ⊢
  rw [← hx, ← hy, UInt32.toNat_div, Int.natCast_ediv]

lemma Is.ceil (hx : Is x a) (hy : Is y b) (hpos : 1 ≤ b) (h : a + b < 2 ^ 32) :
    Is ((x + y - 1) / y) (ceil a b) := by
  have hone : Is 1 1 := rfl
  have hlow := hx.nonneg
  exact ((hx.add hy h).sub hone (by lia)).div hy

lemma Is.min (hx : Is x a) (hy : Is y b) : Is (min x y) (min a b) := by
  rw [Is] at hx hy ⊢
  change (((if x ≤ y then x else y : UInt32).toNat : ℕ) : ℤ) = _
  split_ifs with hle
  · rw [UInt32.le_iff_toNat_le] at hle
    lia
  · rw [UInt32.le_iff_toNat_le] at hle
    lia

lemma Is.max (hx : Is x a) (hy : Is y b) : Is (max x y) (max a b) := by
  rw [Is] at hx hy ⊢
  change (((if x ≤ y then y else x : UInt32).toNat : ℕ) : ℤ) = _
  split_ifs with hle
  · rw [UInt32.le_iff_toNat_le] at hle
    lia
  · rw [UInt32.le_iff_toNat_le] at hle
    lia

lemma Is.clamp {l h : UInt32} (hx : Is x a) (hl : Is l low) (hh : Is h high) :
    Is (Max.max (Min.min x h) l) (clamp a low high) := (hx.min hh).max hl

/-- A numerator that is a multiple of the divisor at most is not rounded beyond it. -/
lemma ceil_le (hb : 0 < b) (h : a ≤ k * b) : ceil a b ≤ k := by
  have hlt : ceil a b < k + 1 := by
    rw [ceil, Int.ediv_lt_iff_lt_mul hb, Int.add_mul]
    lia
  lia

lemma le_ceil_mul (hb : 0 < b) : a ≤ ceil a b * b := by
  have hdiv := Int.lt_ediv_add_one_mul_self (a + b - 1) hb
  rw [Int.add_mul] at hdiv
  rw [ceil]
  lia

end ExactWord
