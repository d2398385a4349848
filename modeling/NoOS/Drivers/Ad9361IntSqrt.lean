import Mathlib.Data.Nat.Log
import Mathlib.Order.Bounds.Basic
import NoOS.Drivers.Ad9361GainUpdate
import NoOS.Lib.Word

/-!
# The integer square root and logarithm of the AD9361

`int_sqrt` finds the digits of the root from the highest one on. When the digits below `2 ^ k` are left, the word `y`
holds the root so far times `2 ^ k`, and `x` is what is left of the square.
-/

namespace NoOS

/-- The digits of the root for `m` and the powers of 4 below it. -/
def intSqrtLoop (x y m : UInt32) : UInt32 :=
  if m = 0 then y
  else
    let b := y + m
    let y := y >>> 1
    if x ≥ b then intSqrtLoop (x - b) (y + m) (m >>> 2) else intSqrtLoop x y (m >>> 2)
termination_by m.toNat
decreasing_by
  all_goals
    have hpos : m.toNat ≠ 0 := fun h => ‹¬m = 0› (UInt32.toNat_inj.mp h)
    have hshift : (m >>> 2).toNat = m.toNat / 4 := by
      rw [UInt32.toNat_shiftRight, Nat.shiftRight_eq_div_pow]
      rfl
    lia

def intSqrt (x : UInt32) : UInt32 := if x ≤ 1 then x else intSqrtLoop x 0 ((1 : UInt32) <<< (32 - 2))

namespace IntSqrt

/-- `r` is the floor of the root of `n`. -/
def IsRoot (n r : ℕ) : Prop := r * r ≤ n ∧ n < (r + 1) * (r + 1)

lemma IsRoot.isGreatest {n r : ℕ} (h : IsRoot n r) : IsGreatest {y : ℕ | y * y ≤ n} r := by
  refine ⟨h.1, fun y hy => ?_⟩
  by_contra hlt
  have hle : r + 1 ≤ y := Nat.lt_of_not_le hlt
  have hmul := Nat.mul_le_mul hle hle
  exact absurd (h.2.trans_le hmul) (Nat.not_lt.mpr hy)

section Digits

variable {k n r : ℕ} {x y m : UInt32}

/-- The root so far and what is left, with the digits below `2 ^ k` still to be found. -/
structure Partial (k n r : ℕ) (x y m : UInt32) : Prop where
  left : x.toNat + r * r = n
  scaled : y.toNat = r * 2 ^ k
  weight : m.toNat = 4 ^ k / 4
  above : n < (r + 2 ^ k) * (r + 2 ^ k)
  bound : r + 2 ^ k ≤ 2 ^ 16

lemma Partial.toNat_weight (h : Partial (k + 1) n r x y m) : m.toNat = 4 ^ k := by
  rw [h.weight, Nat.pow_succ, Nat.mul_div_cancel _ (by decide)]

lemma Partial.half_toNat (h : Partial (k + 1) n r x y m) : (y >>> 1).toNat = r * 2 ^ k := by
  rw [UInt32.toNat_shiftRight, h.scaled, Nat.shiftRight_eq_div_pow, Nat.pow_succ, ← Nat.mul_assoc]
  exact Nat.mul_div_cancel _ (by decide)

lemma toNat_quarter (m : UInt32) : (m >>> 2).toNat = m.toNat / 4 := by
  rw [UInt32.toNat_shiftRight, Nat.shiftRight_eq_div_pow]
  rfl

lemma Partial.add_toNat (h : Partial (k + 1) n r x y m) : (y + m).toNat = r * 2 ^ (k + 1) + 4 ^ k := by
  have hsquare : 2 ^ (k + 1) * 2 ^ (k + 1) = 4 * 4 ^ k := by
    rw [← Nat.mul_pow, Nat.pow_succ, Nat.mul_comm]
  have hpos : 0 < 4 ^ k := Nat.pow_pos (by decide)
  have hweight := h.toNat_weight
  have hlt : r * 2 ^ (k + 1) + 4 ^ k < 2 ^ 32 := calc
    r * 2 ^ (k + 1) + 4 ^ k < (r + 2 ^ (k + 1)) * (r + 2 ^ (k + 1)) := by nlinarith
    _ ≤ 2 ^ 16 * 2 ^ 16 := Nat.mul_le_mul h.bound h.bound
  rw [Word.toNat_add_of_lt (by rwa [h.scaled, hweight]), h.scaled, hweight]

/-- A digit of 1 when the square of the larger root is no more than `n`. -/
lemma Partial.one (h : Partial (k + 1) n r x y m) (hle : (y + m).toNat ≤ x.toNat) :
    Partial k n (r + 2 ^ k) (x - (y + m)) (y >>> 1 + m) (m >>> 2) := by
  have hsum := h.add_toNat
  have hweight := h.toNat_weight
  have hleft := h.left
  have habove := h.above
  have hbound := h.bound
  have hpow : 2 ^ (k + 1) = 2 * 2 ^ k := Nat.pow_succ'
  have hfour : 4 ^ k = 2 ^ k * 2 ^ k := Nat.mul_pow 2 2 k
  constructor
  · rw [Word.toNat_sub_of_le hle, hsum, hpow, hfour]
    rw [hsum, hpow, hfour] at hle
    have hsquare : (r + 2 ^ k) * (r + 2 ^ k) = r * r + (r * (2 * 2 ^ k) + 2 ^ k * 2 ^ k) := by ring
    lia
  · have hword : (y >>> 1).toNat + m.toNat = (r + 2 ^ k) * 2 ^ k := by
      rw [h.half_toNat, hweight, hfour]
      ring
    rw [Word.toNat_add_of_lt (by rw [hword]; nlinarith [Nat.two_pow_pos k]), hword]
  · rw [toNat_quarter, hweight]
  · rw [hpow] at habove
    have hroot : r + 2 * 2 ^ k = r + 2 ^ k + 2 ^ k := by ring
    rwa [hroot] at habove
  · lia

lemma Partial.zero (h : Partial (k + 1) n r x y m) (hlt : x.toNat < (y + m).toNat) :
    Partial k n r x (y >>> 1) (m >>> 2) := by
  have hfour : 4 ^ k = 2 ^ k * 2 ^ k := Nat.mul_pow 2 2 k
  have hpow : 2 ^ (k + 1) = 2 * 2 ^ k := Nat.pow_succ'
  have hbound := h.bound
  constructor
  · exact h.left
  · exact h.half_toNat
  · rw [toNat_quarter, h.toNat_weight]
  · rw [h.add_toNat, hpow, hfour] at hlt
    have hsquare : (r + 2 ^ k) * (r + 2 ^ k) = r * r + (r * (2 * 2 ^ k) + 2 ^ k * 2 ^ k) := by ring
    have hleft := h.left
    lia
  · lia

lemma Partial.isRoot (h : Partial k n r x y m) : IsRoot n (intSqrtLoop x y m).toNat := by
  induction k generalizing r x y m with
  | zero =>
    have hm : m = 0 := UInt32.toNat_inj.mp h.weight
    have hy : y.toNat = r := by rw [h.scaled, Nat.pow_zero, Nat.mul_one]
    have hleft := h.left
    rw [intSqrtLoop, if_pos hm, hy]
    exact ⟨by lia, h.above⟩
  | succ k ih =>
    have hm : m ≠ 0 := Word.ne_zero_of_pos (by rw [h.toNat_weight]; exact Nat.pow_pos (by decide))
    rw [intSqrtLoop, if_neg hm]
    dsimp only
    split_ifs with hge
    · exact ih (h.one (UInt32.le_iff_toNat_le.mp hge))
    · exact ih (h.zero (Nat.lt_of_not_le fun hle => hge (UInt32.le_iff_toNat_le.mpr hle)))

end Digits

lemma isRoot_intSqrt (x : UInt32) : IsRoot x.toNat (intSqrt x).toNat := by
  have hx := x.toNat_lt
  rw [intSqrt]
  split_ifs with hsmall
  · have hle : x.toNat ≤ 1 := UInt32.le_iff_toNat_le.mp hsmall
    refine ⟨?_, ?_⟩ <;> nlinarith
  · refine Partial.isRoot (k := 16) (r := 0) ⟨rfl, rfl, by decide, ?_, by decide⟩
    exact hx

end IntSqrt

open IntSqrt

/-- The square root is rounded down for every word, and the logarithm for every positive number. -/
theorem intSqrt_ilog2 :
    (∀ x : UInt32, IsGreatest {y : ℕ | y * y ≤ x.toNat} (intSqrt x).toNat) ∧
    ∀ x : Int32, 0 < x → ∃ k : ℕ, (ilog2 x).toInt = k ∧ IsGreatest {k : ℕ | 2 ^ k ≤ x.toInt} k := by
  refine ⟨fun x => (isRoot_intSqrt x).isGreatest, fun x hpos => ?_⟩
  have hint : 0 < x.toInt := Int32.lt_iff_toInt_lt.mp hpos
  obtain ⟨n, hn⟩ := Int.eq_ofNat_of_zero_le hint.le
  have hlt : n < 2 ^ 31 := by
    have hmax := x.toInt_lt
    omega
  have hx : x = Int32.ofNat n := Int32.toInt_inj.mp (by rw [hn, Int32.toInt_ofNat_of_lt hlt])
  have hne : n ≠ 0 := by omega
  have hlog : n.log2 < 31 := (Nat.log2_lt hne).mpr hlt
  refine ⟨n.log2, by rw [hx, ilog2_eq hlt, Int32.toInt_ofNat_of_lt (hlog.trans (by decide))], ?_, fun k hk => ?_⟩
  · change (2 ^ n.log2 : ℤ) ≤ x.toInt
    rw [hn]
    exact_mod_cast (Nat.le_log2 hne).mp le_rfl
  · change (2 ^ k : ℤ) ≤ x.toInt at hk
    rw [hn] at hk
    exact (Nat.le_log2 hne).mpr (by exact_mod_cast hk)

end NoOS
