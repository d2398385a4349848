import Mathlib.Algebra.Order.Group.Nat
import Mathlib.Data.Nat.GCD.Basic
import Mathlib.Data.Nat.Size
import Mathlib.Tactic.Common

/-!
# Fractions with fewer bits

A numerator and a denominator lose their lower `k` bits and are reduced. The part of the old denominator
that the new fraction stands for misses the old numerator by less than `2 ^ k`.
-/

namespace CoarseFraction

/-- The number of bits that `p` has to lose to be at most `max`. -/
def lost (max p : ℕ) : ℕ := Nat.size (p / (max + 1))

/-- What is left of `x` when the bits are lost that a denominator of `p` has to lose. -/
def coarse (max p x : ℕ) : ℕ := x / 2 ^ lost max p

variable {max p k : ℕ}

lemma lost_le_iff : lost max p ≤ k ↔ p / 2 ^ k ≤ max := by
  rw [lost, Nat.size_le, Nat.div_lt_iff_lt_mul (Nat.succ_pos max), ← Nat.lt_succ_iff,
    Nat.div_lt_iff_lt_mul (Nat.two_pow_pos k), Nat.mul_comm]

lemma coarse_le : coarse max p p ≤ max := lost_le_iff.mp (Nat.le_refl _)

lemma lost_eq_zero (h : p ≤ max) : lost max p = 0 := by
  rw [← Nat.le_zero, lost_le_iff, Nat.pow_zero, Nat.div_one]
  exact h

/-- Each halving of a number that is too large loses one of the bits. -/
lemma lost_half (h : max < p) : lost max p = lost max (p / 2) + 1 := by
  have hle : ∀ k, lost max p ≤ k + 1 ↔ lost max (p / 2) ≤ k := by
    intro k
    rw [lost_le_iff, lost_le_iff, Nat.div_div_eq_div_mul, ← Nat.pow_succ']
  have hpos : lost max p ≠ 0 := by
    intro hzero
    have hp := lost_le_iff.mp hzero.le
    rw [Nat.pow_zero, Nat.div_one] at hp
    omega
  obtain ⟨k, hk⟩ := Nat.exists_eq_succ_of_ne_zero hpos
  apply Nat.le_antisymm
  · exact (hle _).mpr (Nat.le_refl _)
  · rw [hk]
    exact Nat.succ_le_succ ((hle k).mp hk.le)

lemma coarse_half (h : max < p) (x : ℕ) : coarse max p x = coarse max (p / 2) (x / 2) := by
  rw [coarse, coarse, lost_half h, Nat.pow_succ', Nat.div_div_eq_div_mul]

lemma two_pow_lost_mul (hpos : 0 < lost max p) : max * 2 ^ lost max p < p * 2 := by
  obtain ⟨k, hk⟩ := Nat.exists_eq_succ_of_ne_zero hpos.ne'
  have hlarge : max < p / 2 ^ k := by
    rw [← Nat.not_le, ← lost_le_iff, hk]
    exact Nat.not_succ_le_self k
  have hmul := (Nat.lt_div_iff_mul_lt (Nat.two_pow_pos k)).mp hlarge
  rw [hk, Nat.pow_succ, ← Nat.mul_assoc]
  lia

/-- The part of `p` that the fraction `n / m` stands for. -/
def part (p n m : ℕ) : ℕ := n * p / m

lemma part_reduced {p n m : ℕ} (hm : 0 < m) : part p (n / Nat.gcd n m) (m / Nat.gcd n m) = part p n m := by
  have hgcd := Nat.gcd_pos_of_pos_right n hm
  have hn := Nat.div_mul_cancel (Nat.gcd_dvd_left n m)
  have hm' := Nat.div_mul_cancel (Nat.gcd_dvd_right n m)
  unfold part
  calc n / Nat.gcd n m * p / (m / Nat.gcd n m)
      = n / Nat.gcd n m * p * Nat.gcd n m / (m / Nat.gcd n m * Nat.gcd n m) :=
        (Nat.mul_div_mul_right _ _ hgcd).symm
    _ = n * p / m := by rw [Nat.mul_right_comm, hn, hm']

/-- The new part and the old numerator lie in the same block of `2 ^ k` numbers. -/
lemma part_block {p f k : ℕ} (hf : f < p) (hm : 0 < p / 2 ^ k) :
    f / 2 ^ k * 2 ^ k ≤ part p (f / 2 ^ k) (p / 2 ^ k) ∧
      part p (f / 2 ^ k) (p / 2 ^ k) < f / 2 ^ k * 2 ^ k + 2 ^ k := by
  have hp := Nat.div_add_mod p (2 ^ k)
  have hrem := Nat.mod_lt p (Nat.two_pow_pos k)
  have hle : f / 2 ^ k ≤ p / 2 ^ k := Nat.div_le_div_right hf.le
  have hsplit : f / 2 ^ k * p = f / 2 ^ k * 2 ^ k * (p / 2 ^ k) + f / 2 ^ k * (p % 2 ^ k) := by
    rw [Nat.mul_assoc, ← Nat.mul_add, hp]
  unfold part
  constructor
  · rw [Nat.le_div_iff_mul_le hm, hsplit]
    exact Nat.le_add_right _ _
  · rw [Nat.div_lt_iff_lt_mul hm, hsplit, Nat.add_mul, Nat.add_lt_add_iff_left]
    calc f / 2 ^ k * (p % 2 ^ k) ≤ p / 2 ^ k * (p % 2 ^ k) := Nat.mul_le_mul_right _ hle
      _ < p / 2 ^ k * 2 ^ k := Nat.mul_lt_mul_of_pos_left hrem hm
      _ = 2 ^ k * (p / 2 ^ k) := Nat.mul_comm _ _

/-- The error is below one unit of the bits that are lost. -/
theorem part_error {p f k : ℕ} (hf : f < p) (hm : 0 < p / 2 ^ k) :
    part p (f / 2 ^ k) (p / 2 ^ k) < f + 2 ^ k ∧ f < part p (f / 2 ^ k) (p / 2 ^ k) + 2 ^ k := by
  obtain ⟨hlow, hhigh⟩ := part_block hf hm
  have hf' := Nat.div_add_mod f (2 ^ k)
  have hrem := Nat.mod_lt f (Nat.two_pow_pos k)
  rw [Nat.mul_comm] at hf'
  lia

/-- A numerator that is off by less than half of the modulus is rounded away. -/
theorem div_add_half {x f e modulus : ℕ} (hpos : 0 < modulus) (he : e < f + modulus / 2)
    (hf : f ≤ e + modulus / 2) (hx : f ≤ x * modulus) :
    (x * modulus - f + (e + modulus / 2)) / modulus = x := by
  rw [Nat.div_eq_iff hpos]
  constructor
  · lia
  · lia

end CoarseFraction
