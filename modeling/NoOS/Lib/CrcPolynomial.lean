import NoOS.Lib.Crc
import Mathlib.Algebra.CharP.Two
import Mathlib.Algebra.Field.ZMod
import Mathlib.Algebra.Polynomial.Div
import Mathlib.Data.ZMod.Basic
import Mathlib.Tactic.LinearCombination

/-!
# Checks as remainders

A word stands for a polynomial over the field of two elements. The register after a message is the remainder of the
message, with the first register added above it, by the polynomial of the check.
-/

namespace Crc

open Polynomial

variable {w : ℕ}

/-- A bit as a coefficient. -/
def coef (b : Bool) : ZMod 2 := if b then 1 else 0

/-- The polynomial whose coefficients are the bits of the word. -/
noncomputable def toPoly (c : BitVec w) : (ZMod 2)[X] := ∑ i ∈ Finset.range w, C (coef (c.getLsbD i)) * X ^ i

/-- The polynomial of a message, the first bit above the others. -/
noncomputable def message : List Bool → (ZMod 2)[X]
  | [] => 0
  | b :: bs => C (coef b) * X ^ bs.length + message bs

/-- The polynomial of the check, whose leading term is not in the word. -/
noncomputable def modulus (poly : BitVec w) : (ZMod 2)[X] := X ^ w + toPoly poly

variable {poly c d : BitVec w} {bs : List Bool}

lemma coef_xor (a b : Bool) : coef (a ^^ b) = coef a + coef b := by
  cases a <;> cases b <;> rfl

lemma coeff_toPoly (c : BitVec w) (i : ℕ) : (toPoly c).coeff i = coef (c.getLsbD i) := by
  rw [toPoly, finsetSum_coeff]
  simp only [coeff_C_mul_X_pow]
  rw [Finset.sum_ite_eq]
  by_cases h : i < w
  · rw [if_pos (Finset.mem_range.mpr h)]
  · rw [if_neg (mt Finset.mem_range.mp h), BitVec.getLsbD_of_ge c i (Nat.le_of_not_lt h)]
    rfl

lemma degree_toPoly_lt (c : BitVec w) : (toPoly c).degree < w := by
  rw [degree_lt_iff_coeff_zero]
  intro i hi
  rw [coeff_toPoly, BitVec.getLsbD_of_ge c i hi]
  rfl

lemma degree_modulus (poly : BitVec w) : (modulus poly).degree = w := by
  have hlt : (toPoly poly).degree < (X ^ w : (ZMod 2)[X]).degree := by
    rw [degree_X_pow]
    exact degree_toPoly_lt poly
  rw [modulus, degree_add_eq_left_of_degree_lt hlt, degree_X_pow]

lemma monic_modulus (poly : BitVec w) : (modulus poly).Monic := monic_X_pow_add (degree_toPoly_lt poly)

lemma toPoly_xor (c d : BitVec w) : toPoly (c ^^^ d) = toPoly c + toPoly d := by
  ext i
  rw [coeff_add, coeff_toPoly, coeff_toPoly, coeff_toPoly, BitVec.getLsbD_xor]
  exact coef_xor _ _

lemma toPoly_shiftLeft (c : BitVec w) : toPoly (c <<< 1) + C (coef c.msb) * X ^ w = toPoly c * X := by
  ext i
  rw [coeff_add, coeff_toPoly, coeff_C_mul_X_pow, BitVec.getLsbD_shiftLeft]
  cases i with
  | zero =>
    rw [mul_coeff_zero, coeff_X_zero, mul_zero]
    by_cases hw : w = 0
    · subst hw
      rw [BitVec.eq_nil c]
      rfl
    · rw [if_neg (Ne.symm hw)]
      simp [coef]
  | succ i =>
    rw [coeff_mul_X, coeff_toPoly, Nat.add_sub_cancel]
    rcases Nat.lt_trichotomy (i + 1) w with h | h | h
    · simp [h, h.ne, coef]
    · subst h
      simp [coef, BitVec.msb_eq_getLsbD_last]
    · rw [if_neg (by lia), BitVec.getLsbD_of_ge c i (by omega)]
      simp [coef]

lemma toPoly_top (hw : 0 < w) (b : Bool) : toPoly (top b : BitVec w) * X = C (coef b) * X ^ w := by
  cases b with
  | false =>
    have hzero : toPoly (0#w) = 0 := by
      ext i
      rw [coeff_toPoly, BitVec.getLsbD_zero]
      rfl
    rw [top, if_neg Bool.false_ne_true, hzero, coef, if_neg Bool.false_ne_true, C_0, zero_mul, zero_mul]
  | true =>
    have hpow : toPoly (BitVec.twoPow w (w - 1)) = X ^ (w - 1) := by
      ext i
      rw [coeff_toPoly, BitVec.getLsbD_twoPow, coeff_X_pow]
      by_cases h : i = w - 1
      · subst h
        simp [coef, hw]
      · simp [coef, h, Ne.symm h]
    rw [top, if_pos rfl, hpow, ← pow_succ, Nat.sub_add_cancel hw, coef, if_pos rfl, C_1, one_mul]

/-- A bit moves the register by one place and is added above it, up to the polynomial of the check. -/
lemma toPoly_feedBit (hw : 0 < w) (poly c : BitVec w) (b : Bool) : ∃ q,
    toPoly (feedBit poly c b) + modulus poly * q = toPoly c * X + C (coef b) * X ^ w := by
  use C (coef (c ^^^ top b).msb)
  have hshift := toPoly_shiftLeft (c ^^^ top b)
  rw [toPoly_xor, add_mul, toPoly_top hw] at hshift
  rw [← hshift, feedBit, shift, modulus]
  cases (c ^^^ top b).msb with
  | false => rw [if_neg Bool.false_ne_true, coef, if_neg Bool.false_ne_true, C_0, mul_zero, zero_mul]
  | true =>
    have htwo : toPoly poly + toPoly poly = 0 := CharTwo.add_self_eq_zero _
    rw [if_pos rfl, toPoly_xor, coef, if_pos rfl, C_1]
    linear_combination htwo

lemma toPoly_feed (hw : 0 < w) (poly c : BitVec w) (bs : List Bool) : ∃ q,
    toPoly (feed poly c bs) + modulus poly * q = toPoly c * X ^ bs.length + message bs * X ^ w := by
  induction bs generalizing c with
  | nil =>
    use 0
    change toPoly c + modulus poly * 0 = toPoly c * X ^ 0 + 0 * X ^ w
    ring
  | cons b bs ih =>
    obtain ⟨q, hq⟩ := ih (feedBit poly c b)
    obtain ⟨r, hr⟩ := toPoly_feedBit hw poly c b
    use q + r * X ^ bs.length
    change toPoly (feed poly (feedBit poly c b) bs) + _ = _
    rw [message, List.length_cons]
    linear_combination hq + X ^ bs.length * hr

/-- The register after a message is a remainder. -/
theorem toPoly_feed_eq (hw : 0 < w) (poly c : BitVec w) (bs : List Bool) :
    toPoly (feed poly c bs) = (toPoly c * X ^ bs.length + message bs * X ^ w) %ₘ modulus poly := by
  obtain ⟨q, hq⟩ := toPoly_feed hw poly c bs
  refine (div_modByMonic_unique q _ (monic_modulus poly) ⟨hq, ?_⟩).2.symm
  rw [degree_modulus]
  exact degree_toPoly_lt _

end Crc
