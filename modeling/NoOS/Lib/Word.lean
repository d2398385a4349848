import Mathlib.Data.UInt
import Mathlib.Tactic.Common

/-!
# Words of 32 bits

The values of unsigned operations that do not wrap, and of small words seen as signed ones.
-/

namespace Word

variable {a b : UInt32}

lemma toNat_sub_of_le (h : b.toNat ≤ a.toNat) : (a - b).toNat = a.toNat - b.toNat :=
  UInt32.toNat_sub_of_le a b (UInt32.le_iff_toNat_le.mpr h)

lemma ne_zero_of_pos (h : 0 < a.toNat) : a ≠ 0 := by
  rintro rfl
  exact Nat.lt_irrefl 0 h

lemma toNat_sub_one_add_one (h : a ≠ 0) : (a - 1).toNat + 1 = a.toNat := by
  have hpos : 1 ≤ a.toNat := Nat.one_le_iff_ne_zero.mpr fun h0 => h (UInt32.toNat_inj.mp h0)
  have hsub : (a - 1).toNat = a.toNat - 1 := toNat_sub_of_le hpos
  lia

lemma toNat_add_of_lt (h : a.toNat + b.toNat < 2 ^ 32) : (a + b).toNat = a.toNat + b.toNat := by
  rw [UInt32.toNat_add, Nat.mod_eq_of_lt h]

lemma toInt32_toInt (h : a.toNat < 2 ^ 31) : a.toInt32.toInt = a.toNat := by
  change a.toBitVec.toInt = _
  rw [BitVec.toInt_eq_toNat_of_lt]
  · rfl
  · rw [UInt32.toNat_toBitVec]
    lia

lemma toInt32_abs (h : a.toNat < 2 ^ 31) :
    ¬a.toInt32 < 0 ∧ a.toInt32.abs.toInt.toNat = a.toNat := by
  have hint := toInt32_toInt h
  constructor
  · rw [Int32.lt_iff_toInt_lt, hint]
    simp
  · have hmsb : a.toBitVec.msb = false := by
      rw [BitVec.msb_eq_false_iff_two_mul_lt, UInt32.toNat_toBitVec]
      lia
    have habs : a.toInt32.abs = a.toInt32 := by
      apply Int32.toBitVec_inj.mp
      change BitVec.abs a.toBitVec = a.toBitVec
      rw [BitVec.abs, hmsb]
      rfl
    rw [habs, hint, Int.toNat_natCast]

lemma toNat_abs {i : Int32} (h : i ≠ Int32.minValue) : i.abs.toInt.toNat = i.toInt.natAbs := by
  have hmin : i.toBitVec ≠ BitVec.intMin 32 := fun hc => h (Int32.toBitVec_inj.mp hc)
  change i.toBitVec.abs.toInt.toNat = i.toBitVec.toInt.natAbs
  rw [BitVec.toInt_abs_eq_natAbs, if_neg hmin, Int.toNat_natCast]

lemma toInt32_neg : a.toInt32 < 0 ↔ 2 ^ 31 ≤ a.toNat := by
  rw [Int32.lt_iff_toInt_lt]
  change a.toBitVec.toInt < 0 ↔ _
  have hlt := a.toNat_lt
  rw [BitVec.toInt_eq_toNat_cond, UInt32.toNat_toBitVec]
  split
  · lia
  · lia

lemma ofInt_natCast (n : ℕ) : UInt32.ofInt n = UInt32.ofNat n := by
  apply UInt32.toNat_inj.mp
  rw [UInt32.toNat_ofNat']
  simp [UInt32.ofInt]
  lia

lemma toNat_ofInt (n : ℤ) : ((UInt32.ofInt n).toNat : ℤ) = n % 2 ^ 32 := by
  simp [UInt32.ofInt]
  lia

/-- A number that fits into a signed word is found again in every word that is congruent to it. -/
lemma toInt32_toInt_of_emod {n : ℤ} (hlow : -2 ^ 31 ≤ n) (hhigh : n < 2 ^ 31) (h : (a.toNat : ℤ) % 2 ^ 32 = n % 2 ^ 32) :
    a.toInt32.toInt = n := by
  have hlt := a.toNat_lt
  change a.toBitVec.toInt = n
  rw [BitVec.toInt_eq_toNat_cond, UInt32.toNat_toBitVec]
  split
  · lia
  · lia

lemma toNat_add_ofInt {n : ℕ} (h : a.toNat + n < 2 ^ 32) :
    (a + UInt32.ofInt n).toNat = a.toNat + n := by
  have hn : (UInt32.ofNat n).toNat = n :=
    UInt32.toNat_ofNat_of_lt' (by simp only [UInt32.size]; lia)
  rw [ofInt_natCast, toNat_add_of_lt (by lia), hn]

lemma sub_toInt32_neg (ha : a.toNat < 2 ^ 31) (hb : b.toNat < 2 ^ 31) :
    (a - b).toInt32 < 0 ↔ a.toNat < b.toNat := by
  constructor
  · intro hneg
    by_contra hle
    refine (toInt32_abs (a := a - b) ?_).1 hneg
    rw [toNat_sub_of_le (by omega)]
    lia
  · intro hlt
    rw [Int32.lt_iff_toInt_lt]
    change (a - b).toBitVec.toInt < 0
    have hsub : (a - b).toNat = 2 ^ 32 + a.toNat - b.toNat := by
      rw [UInt32.toNat_sub]
      lia
    rw [BitVec.toInt_eq_toNat_cond, UInt32.toNat_toBitVec, hsub]
    split
    · lia
    · lia

section Wide

variable {x y : UInt64}

lemma toNat_mul64 (h : x.toNat * y.toNat < 2 ^ 64) : (x * y).toNat = x.toNat * y.toNat := by
  rw [UInt64.toNat_mul, Nat.mod_eq_of_lt h]

lemma toNat_add64 (h : x.toNat + y.toNat < 2 ^ 64) : (x + y).toNat = x.toNat + y.toNat := by
  rw [UInt64.toNat_add, Nat.mod_eq_of_lt h]

lemma ne_zero_of_pos64 (h : 0 < x.toNat) : x ≠ 0 := by
  rintro rfl
  exact Nat.lt_irrefl 0 h

end Wide

end Word
