import Mathlib.Algebra.Order.Ring.Abs
import Mathlib.Algebra.Order.Field.Rat
import NoOS.Lib.Word
import NoOS.Util.Util

/-!
# The greatest common divisor with its counter

The trial division counts up to the smaller operand and beyond it. A counter of 32 bits does not get beyond the
largest word: it begins again at 0, and the next remainder is by 0.
-/

namespace NoOS

/-- The trial division, or none if it needs more passes. -/
def commonDivLoop (a b : UInt32) : ℕ → UInt32 → UInt32 → Option (Arith UInt32)
  | 0, _, _ => none
  | n + 1, div, commonDiv =>
    if div ≤ a ∧ div ≤ b then
      if div = 0 then some .byZero
      else commonDivLoop a b n (div + 1) (if a % div = 0 ∧ b % div = 0 then div else commonDiv)
    else some (pure commonDiv)

def greatestCommonDivisorLoop (n : ℕ) (a b : UInt32) : Option (Arith UInt32) :=
  if a = 0 ∨ b = 0 then some (pure (max a b)) else commonDivLoop a b n 1 1

def rationalBestApproximationLoop (n : ℕ) (givenNumerator givenDenominator maxNumerator maxDenominator : UInt32) :
    Option (Arith (UInt32 × UInt32)) :=
  (greatestCommonDivisorLoop n givenNumerator givenDenominator).map fun gcd => do
    let gcd ← gcd
    let bestNumerator ← Arith.div givenNumerator gcd
    let bestDenominator ← Arith.div givenDenominator gcd
    if bestNumerator > maxNumerator ∨ bestDenominator > maxDenominator then return (0, 0)
    return (bestNumerator, bestDenominator)

/-- A fraction within limits on its numerator and its denominator. -/
def WithinLimits (maxNum maxDen : ℕ) (p : ℕ × ℕ) : Prop := p.1 ≤ maxNum ∧ p.2 ≤ maxDen ∧ p.2 ≠ 0

/-- No fraction within the limits is nearer to the given one. -/
def IsBestWithin (num den maxNum maxDen : ℕ) (p : ℕ × ℕ) : Prop :=
  WithinLimits maxNum maxDen p ∧
    ∀ q, WithinLimits maxNum maxDen q → |(p.1 / p.2 : ℚ) - num / den| ≤ |(q.1 / q.2 : ℚ) - num / den|

/-- The reduced fraction is within the limits. -/
def ReducedFits (num den maxNum maxDen : ℕ) : Prop :=
  num / Nat.gcd num den ≤ maxNum ∧ den / Nat.gcd num den ≤ maxDen

instance (num den maxNum maxDen : ℕ) : Decidable (ReducedFits num den maxNum maxDen) :=
  inferInstanceAs (Decidable (_ ∧ _))

/-- The reduced fraction if it is within the limits, and otherwise the nearest one that is. -/
def IsApproximation (num den maxNum maxDen : ℕ) (p : ℕ × ℕ) : Prop :=
  if ReducedFits num den maxNum maxDen then p = (num / Nat.gcd num den, den / Nat.gcd num den)
  else IsBestWithin num den maxNum maxDen p

/-- The trial division ends and has the greatest common divisor. -/
def GcdReturned (a b : UInt32) : Prop :=
  ∃ n gcd, greatestCommonDivisorLoop n a b = some (pure gcd) ∧ gcd.toNat = Nat.gcd a.toNat b.toNat

/-- The call ends and has the approximation. -/
def ApproximationReturned (num den maxNum maxDen : UInt32) : Prop :=
  ∃ n p, (rationalBestApproximationLoop n num den maxNum maxDen).bind Arith.value = some p ∧
    IsApproximation num.toNat den.toNat maxNum.toNat maxDen.toNat (p.1.toNat, p.2.toNat)

variable {a b div commonDiv : UInt32} {n k : ℕ}

/-- Below the largest word the counter gets beyond the smaller operand. -/
lemma commonDivLoop_eq (hdiv : 0 < div.toNat) (hk : div.toNat + k = (min a b).toNat + 1)
    (hlt : (min a b).toNat + 1 < 2 ^ 32) : commonDivLoop a b (k + 1 + n) div commonDiv =
      some (pure ((List.range' div.toNat k).foldl (fun commonDiv d =>
        if a.toNat % d = 0 ∧ b.toNat % d = 0 then UInt32.ofNat d else commonDiv) commonDiv)) := by
  have hmin := UInt32.toNat_min a b
  induction k generalizing div commonDiv with
  | zero =>
    have hover : ¬(div ≤ a ∧ div ≤ b) := by
      rw [UInt32.le_iff_toNat_le, UInt32.le_iff_toNat_le]
      lia
    rw [Nat.add_comm, commonDivLoop, if_neg hover]
    rfl
  | succ k ih =>
    have hle : div ≤ a ∧ div ≤ b := by
      rw [UInt32.le_iff_toNat_le, UInt32.le_iff_toNat_le]
      lia
    have hne : div ≠ 0 := fun h => absurd (congrArg UInt32.toNat h) hdiv.ne'
    have hnext : (div + 1).toNat = div.toNat + 1 := Word.toNat_add_of_lt (by
      rw [UInt32.toNat_one]
      lia)
    have hmod : ∀ x : UInt32, x % div = 0 ↔ x.toNat % div.toNat = 0 := by
      intro x
      rw [← UInt32.toNat_inj, UInt32.toNat_mod]
      rfl
    rw [show k + 1 + 1 + n = (k + 1 + n) + 1 by lia, commonDivLoop, if_pos hle, if_neg hne,
      ih (by lia) (by lia), hnext, List.range'_succ, List.foldl_cons]
    simp only [hmod, UInt32.ofNat_toNat]

lemma commonDivLoop_mono {r : Arith UInt32} (m : ℕ) (h : commonDivLoop a b n div commonDiv = some r) :
    commonDivLoop a b (n + m) div commonDiv = some r := by
  induction n generalizing div commonDiv with
  | zero => exact absurd h (Option.some_ne_none r).symm
  | succ n ih =>
    rw [Nat.add_right_comm, commonDivLoop]
    rw [commonDivLoop] at h
    split
    · rename_i hle
      rw [if_pos hle] at h
      split
      · rename_i hzero
        rwa [if_pos hzero] at h
      · rename_i hne
        rw [if_neg hne] at h
        exact ih h
    · rename_i hover
      rwa [if_neg hover] at h

lemma greatestCommonDivisorLoop_mono {r : Arith UInt32} (m : ℕ) (h : greatestCommonDivisorLoop n a b = some r) :
    greatestCommonDivisorLoop (n + m) a b = some r := by
  unfold greatestCommonDivisorLoop at h ⊢
  split
  · rename_i hzero
    rwa [if_pos hzero] at h
  · rename_i hne
    rw [if_neg hne] at h
    exact commonDivLoop_mono m h

lemma commonDivLoop_wraps {r : Arith UInt32} (h : commonDivLoop 0xFFFFFFFF 0xFFFFFFFF n div commonDiv = some r) :
    r = .byZero := by
  induction n generalizing div commonDiv with
  | zero => exact absurd h (Option.some_ne_none r).symm
  | succ n ih =>
    have hle : div ≤ 0xFFFFFFFF := by
      rw [UInt32.le_iff_toNat_le]
      exact Nat.le_of_lt_succ div.toNat_lt
    rw [commonDivLoop, if_pos ⟨hle, hle⟩] at h
    split at h
    · exact (Option.some.inj h).symm
    · exact ih h

lemma greatestCommonDivisorLoop_wraps {r : Arith UInt32}
    (h : greatestCommonDivisorLoop n 0xFFFFFFFF 0xFFFFFFFF = some r) : r = .byZero := by
  rw [greatestCommonDivisorLoop, if_neg (by decide)] at h
  exact commonDivLoop_wraps h

/-- With as many passes as the smaller operand and one more the loop ends. -/
theorem greatestCommonDivisorLoop_eq (h : ¬(a = 0xFFFFFFFF ∧ b = 0xFFFFFFFF)) :
    greatestCommonDivisorLoop ((min a b).toNat + 1) a b = some (pure (greatestCommonDivisor a b)) := by
  rw [greatestCommonDivisorLoop, greatestCommonDivisor]
  by_cases hzero : a = 0 ∨ b = 0
  · rw [if_pos hzero, if_pos hzero]
  · have hlt : (min a b).toNat + 1 < 2 ^ 32 := by
      have ha := a.toNat_lt
      have hb := b.toNat_lt
      rw [← UInt32.toNat_inj, ← UInt32.toNat_inj, show UInt32.toNat 0xFFFFFFFF = 2 ^ 32 - 1 from rfl] at h
      rw [UInt32.toNat_min]
      lia
    rw [if_neg hzero, if_neg hzero]
    exact @commonDivLoop_eq a b 1 1 0 _ Nat.one_pos (Nat.add_comm _ _) hlt

lemma greatestCommonDivisorLoop_some (h : ¬(a = 0xFFFFFFFF ∧ b = 0xFFFFFFFF)) {r : Arith UInt32}
    (hr : greatestCommonDivisorLoop n a b = some r) : r = pure (greatestCommonDivisor a b) := by
  have hmore := greatestCommonDivisorLoop_mono ((min a b).toNat + 1) hr
  rw [Nat.add_comm, greatestCommonDivisorLoop_mono n (greatestCommonDivisorLoop_eq h)] at hmore
  exact (Option.some.inj hmore).symm

lemma gcdReturned_iff : GcdReturned a b ↔ ¬(a = 0xFFFFFFFF ∧ b = 0xFFFFFFFF) := by
  constructor
  · rintro ⟨n, gcd, hgcd, -⟩ ⟨rfl, rfl⟩
    cases greatestCommonDivisorLoop_wraps hgcd
  · intro h
    exact ⟨_, _, greatestCommonDivisorLoop_eq h, toNat_greatestCommonDivisor a b⟩

variable {num den maxNum maxDen : UInt32}

/-- A call that ends has the reduced fraction, or 0 / 0 outside of the limits. -/
lemma rationalBestApproximation_value (h : num ≠ 0 ∨ den ≠ 0) :
    (rationalBestApproximation num den maxNum maxDen).value =
      some (if ReducedFits num.toNat den.toNat maxNum.toNat maxDen.toNat
        then (num / greatestCommonDivisor num den, den / greatestCommonDivisor num den) else (0, 0)) := by
  have hgcd : greatestCommonDivisor num den ≠ 0 := by
    intro hzero
    have hnat := toNat_greatestCommonDivisor num den
    rw [hzero, UInt32.toNat_zero] at hnat
    obtain ⟨hnum, hden⟩ := Nat.gcd_eq_zero_iff.mp hnat.symm
    exact h.elim (fun hne => hne (UInt32.toNat_inj.mp hnum)) fun hne => hne (UInt32.toNat_inj.mp hden)
  have hfits : ReducedFits num.toNat den.toNat maxNum.toNat maxDen.toNat ↔
      ¬(num / greatestCommonDivisor num den > maxNum ∨ den / greatestCommonDivisor num den > maxDen) := by
    rw [ReducedFits, not_or, gt_iff_lt, gt_iff_lt, UInt32.not_lt, UInt32.not_lt, UInt32.le_iff_toNat_le,
      UInt32.le_iff_toNat_le, UInt32.toNat_div, UInt32.toNat_div, toNat_greatestCommonDivisor]
  rw [rationalBestApproximation]
  simp only [Arith.value_bind, Arith.value_div hgcd, Option.bind_some]
  by_cases hr : ReducedFits num.toNat den.toNat maxNum.toNat maxDen.toNat
  · rw [if_pos hr, if_neg (hfits.mp hr), Arith.value_pure]
  · rw [if_neg hr, if_pos (not_not.mp (mt hfits.mpr hr)), Arith.value_pure]

lemma not_isApproximation_zero (hfits : ¬ReducedFits num.toNat den.toNat maxNum.toNat maxDen.toNat) :
    ¬IsApproximation num.toNat den.toNat maxNum.toNat maxDen.toNat (0, 0) := by
  rw [IsApproximation, if_neg hfits]
  rintro ⟨⟨-, -, hne⟩, -⟩
  exact hne rfl

lemma approximationReturned_iff (h : num ≠ 0 ∨ den ≠ 0) : ApproximationReturned num den maxNum maxDen ↔
    ¬(num = 0xFFFFFFFF ∧ den = 0xFFFFFFFF) ∧ ReducedFits num.toNat den.toNat maxNum.toNat maxDen.toNat := by
  constructor
  · rintro ⟨n, p, hp, happrox⟩
    obtain ⟨r, hr, hval⟩ := Option.bind_eq_some_iff.mp hp
    obtain ⟨gcd, hgcd, rfl⟩ := Option.map_eq_some_iff.mp hr
    have hnot : ¬(num = 0xFFFFFFFF ∧ den = 0xFFFFFFFF) := by
      rintro ⟨rfl, rfl⟩
      cases greatestCommonDivisorLoop_wraps hgcd
      exact absurd hval (Option.some_ne_none p).symm
    refine ⟨hnot, ?_⟩
    by_contra hfits
    obtain rfl := greatestCommonDivisorLoop_some hnot hgcd
    have hzero := @rationalBestApproximation_value num den maxNum maxDen h
    rw [if_neg hfits] at hzero
    rw [Arith.value_bind, Arith.value_pure, Option.bind_some] at hval
    obtain rfl := Option.some.inj (hzero.symm.trans hval)
    exact not_isApproximation_zero hfits happrox
  · rintro ⟨hnot, hfits⟩
    refine ⟨(min num den).toNat + 1, (num / greatestCommonDivisor num den, den / greatestCommonDivisor num den),
      ?_, ?_⟩
    · have hval := @rationalBestApproximation_value num den maxNum maxDen h
      rw [if_pos hfits] at hval
      rw [rationalBestApproximationLoop, greatestCommonDivisorLoop_eq hnot, Option.map_some, Option.bind_some,
        Arith.value_bind, Arith.value_pure, Option.bind_some]
      exact hval
    · rw [IsApproximation, if_pos hfits, UInt32.toNat_div, UInt32.toNat_div, toNat_greatestCommonDivisor]

/-- The trial division has the greatest common divisor unless both operands are the largest word, and the
approximation is right if also the reduced fraction is within the limits. -/
theorem rational_correct_iff (h : num ≠ 0 ∨ den ≠ 0) :
    (GcdReturned num den ↔ ¬(num = 0xFFFFFFFF ∧ den = 0xFFFFFFFF)) ∧
      (ApproximationReturned num den maxNum maxDen ↔
        ¬(num = 0xFFFFFFFF ∧ den = 0xFFFFFFFF) ∧ ReducedFits num.toNat den.toNat maxNum.toNat maxDen.toNat) :=
  ⟨gcdReturned_iff, approximationReturned_iff h⟩

/-- 6 / 4 is reduced to 3 / 2. -/
theorem rational_correct_six : GcdReturned 6 4 ∧ ApproximationReturned 6 4 3 2 :=
  ⟨(@rational_correct_iff 6 4 3 2 (.inl (by decide))).1.mpr (by decide),
    (@rational_correct_iff 6 4 3 2 (.inl (by decide))).2.mpr (by decide)⟩

/-- The largest word with itself, and 3 / 2, next to which is 1 / 1. -/
theorem not_rational_correct : ¬GcdReturned 0xFFFFFFFF 0xFFFFFFFF ∧ ¬ApproximationReturned 3 2 2 2 := by
  constructor
  · exact mt gcdReturned_iff.mp (by decide)
  · exact mt (approximationReturned_iff (.inl (by decide))).mp (by decide)

end NoOS
