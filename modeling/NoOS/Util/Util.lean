import Mathlib.Data.Nat.Find
import Mathlib.Data.UInt
import NoOS.Lib.Arith
import NoOS.Lib.Word

/-!
# The helpers of `util.h` and `util.c`
-/

namespace NoOS

def divRoundUp (x y : UInt32) : UInt32 := (x + y - 1) / y
def divRoundClosest (x y : UInt32) : UInt32 := (x + y / 2) / y
def clamp (val minVal maxVal : UInt32) : UInt32 := max (min val maxVal) minVal

/-- `(x + y - 1) / y`, the same as `DIV_ROUND_UP` -/
def roundUp (x y : UInt32) : UInt32 := (x + y - 1) / y
def divRoundClosestUll (x : UInt64) (y : UInt32) : UInt64 := (x + (y / 2).toUInt64) / y.toUInt64

/-- The limits of a `long` of 32 bits. -/
def LONG_MAX : UInt64 := 0x7fffffff
def ULONG_MAX : UInt64 := 0xffffffff

/-- The values that `for (x = lo; x <= hi; x++)` runs through. -/
def forRange (lo hi : UInt32) : List UInt32 :=
  (List.range' lo.toNat (hi.toNat + 1 - lo.toNat)).map UInt32.ofNat

/-- The values that `for (x = lo; x <= hi; x += step)` runs through. -/
def forStep (step : ℕ) (lo hi : UInt32) : List UInt32 :=
  (List.range' lo.toNat ((hi.toNat + step - lo.toNat) / step) step).map UInt32.ofNat

/-- `abs` of an unsigned difference, which is converted to `int` -/
def cAbs (x : UInt32) : ℕ := x.toInt32.toInt.natAbs

lemma mem_forRange_iff {lo hi x : UInt32} : x ∈ forRange lo hi ↔ lo.toNat ≤ x.toNat ∧ x.toNat ≤ hi.toNat := by
  have hhi := hi.toNat_lt
  rw [forRange, List.mem_map]
  constructor
  · rintro ⟨n, hn, rfl⟩
    rw [List.mem_range'_1] at hn
    rw [UInt32.toNat_ofNat_of_lt' (by simp only [UInt32.size]; lia)]
    lia
  · rintro ⟨hlo, hle⟩
    refine ⟨x.toNat, ?_, UInt32.ofNat_toNat⟩
    rw [List.mem_range'_1]
    lia

lemma mem_forRange {lo hi x : UInt32} (h : x ∈ forRange lo hi) : lo.toNat ≤ x.toNat ∧ x.toNat ≤ hi.toNat :=
  mem_forRange_iff.mp h

lemma forRange_sorted (lo hi : UInt32) : (forRange lo hi).Pairwise (· ≤ ·) := by
  have hhi := hi.toNat_lt
  rw [forRange, List.pairwise_map]
  refine List.Pairwise.imp_of_mem ?_ (List.pairwise_lt_range' (s := lo.toNat))
  intro a b ha hb hlt
  rw [List.mem_range'_1] at ha hb
  rw [UInt32.le_iff_toNat_le, UInt32.toNat_ofNat_of_lt' (by simp only [UInt32.size]; lia),
    UInt32.toNat_ofNat_of_lt' (by simp only [UInt32.size]; lia)]
  exact hlt.le

lemma mem_forStep_iff {step : ℕ} (hstep : 0 < step) {lo hi x : UInt32} : x ∈ forStep step lo hi ↔
    x.toNat ≤ hi.toNat ∧ ∃ i, x.toNat = lo.toNat + step * i := by
  have hhi := hi.toNat_lt
  have hlast : ∀ i, i < (hi.toNat + step - lo.toNat) / step ↔ lo.toNat + step * i ≤ hi.toNat := by
    intro i
    rw [← Nat.succ_le_iff, Nat.le_div_iff_mul_le hstep, Nat.succ_mul, Nat.mul_comm i]
    lia
  rw [forStep, List.mem_map]
  constructor
  · rintro ⟨n, hn, rfl⟩
    obtain ⟨i, hi', rfl⟩ := List.mem_range'.mp hn
    have hle := (hlast i).mp hi'
    rw [UInt32.toNat_ofNat_of_lt' (by simp only [UInt32.size]; lia)]
    exact ⟨hle, i, rfl⟩
  · rintro ⟨hle, i, hi'⟩
    refine ⟨x.toNat, List.mem_range'.mpr ⟨i, (hlast i).mpr (by rwa [← hi']), hi'⟩, UInt32.ofNat_toNat⟩

lemma le_of_mem_forStep {step : ℕ} (hstep : 0 < step) {lo hi x : UInt32} (h : x ∈ forStep step lo hi) :
    x.toNat ≤ hi.toNat :=
  ((mem_forStep_iff hstep).mp h).1

lemma cAbs_eq (x : UInt32) : cAbs x = if x.toNat < 2 ^ 31 then x.toNat else 2 ^ 32 - x.toNat := by
  have hlt := x.toNat_lt
  change x.toBitVec.toInt.natAbs = _
  rw [BitVec.toInt_eq_toNat_cond, UInt32.toNat_toBitVec]
  split_ifs <;> lia

lemma cAbs_sub {x y : UInt32} (hx : x.toNat < 2 ^ 31) (hy : y.toNat < 2 ^ 31) :
    cAbs (x - y) = ((x.toNat : ℤ) - y.toNat).natAbs := by
  rw [cAbs_eq, UInt32.toNat_sub]
  split_ifs <;> lia

section Round

variable {x y : UInt32}

lemma toNat_divRoundUp (hy : 0 < y.toNat) (h : x.toNat + y.toNat < 2 ^ 32) :
    (divRoundUp x y).toNat = (x.toNat + y.toNat - 1) / y.toNat := by
  have hone : (1 : UInt32).toNat = 1 := rfl
  have hsum := Word.toNat_add_of_lt h
  rw [divRoundUp, UInt32.toNat_div, Word.toNat_sub_of_le (by rw [hsum, hone]; lia), hsum, hone]

lemma toNat_divRoundClosest (h : x.toNat + y.toNat / 2 < 2 ^ 32) :
    (divRoundClosest x y).toNat = (x.toNat + y.toNat / 2) / y.toNat := by
  have htwo : (y / 2).toNat = y.toNat / 2 := UInt32.toNat_div y 2
  rw [divRoundClosest, UInt32.toNat_div, Word.toNat_add_of_lt (by rwa [htwo]), htwo]

end Round

/-- `find_first_set_bit` with `n` more bits -/
def firstSetBitFrom : ℕ → UInt32 → UInt32 → UInt32
  | 0, _, _ => 32
  | n + 1, word, bit =>
    if word = 0 then 32 else if word &&& 1 ≠ 0 then bit else firstSetBitFrom n (word >>> 1) (bit + 1)

def findFirstSetBit (word : UInt32) : UInt32 := firstSetBitFrom 32 word 0

def fieldPrep (mask val : UInt32) : UInt32 := (val <<< findFirstSetBit mask) &&& mask

/-- `find_last_set_bit` with `n` more bits -/
def lastSetBitFrom : ℕ → UInt32 → UInt32 → UInt32 → UInt32
  | 0, _, _, lastSetBit => lastSetBit
  | n + 1, word, bit, lastSetBit =>
    if word = 0 then lastSetBit
    else lastSetBitFrom n (word >>> 1) (bit + 1) (if word &&& 1 ≠ 0 then bit else lastSetBit)

def findLastSetBit (word : UInt32) : UInt32 := lastSetBitFrom 32 word 0 32

def logBase2 (x : UInt32) : UInt32 := findLastSetBit x

/-- The quotient, which the code stores, and the remainder, which it returns. -/
def doDiv (n base : UInt64) : Arith (UInt64 × UInt64) := do
  let mod ← Arith.mod64 n base
  let n ← Arith.div64 n base
  return (n, mod)

def greatestCommonDivisor (a b : UInt32) : UInt32 :=
  if a = 0 ∨ b = 0 then max a b
  else (List.range' 1 (min a b).toNat).foldl
    (fun commonDiv div => if a.toNat % div = 0 ∧ b.toNat % div = 0 then UInt32.ofNat div else commonDiv) 1

/-- The numerator and the denominator, both 0 if there are none within the bounds. -/
def rationalBestApproximation (givenNumerator givenDenominator maxNumerator maxDenominator : UInt32) :
    Arith (UInt32 × UInt32) := do
  let gcd := greatestCommonDivisor givenNumerator givenDenominator
  let bestNumerator ← Arith.div givenNumerator gcd
  let bestDenominator ← Arith.div givenDenominator gcd
  if bestNumerator > maxNumerator ∨ bestDenominator > maxDenominator then return (0, 0)
  return (bestNumerator, bestDenominator)

/-- The last common divisor of the trial division is the greatest one. -/
lemma foldl_commonDiv {a b n : ℕ} (hn : 1 ≤ n) (hlt : n < 2 ^ 32) :
    ((List.range' 1 n).foldl (fun (commonDiv : UInt32) div =>
      if a % div = 0 ∧ b % div = 0 then UInt32.ofNat div else commonDiv) 1).toNat =
      Nat.findGreatest (fun d => a % d = 0 ∧ b % d = 0) n := by
  induction n with
  | zero => omega
  | succ n ih =>
    rw [List.range'_concat, List.foldl_append, Nat.findGreatest_succ]
    simp only [List.foldl_cons, List.foldl_nil, Nat.one_mul, Nat.add_comm 1 n]
    split
    · exact UInt32.toNat_ofNat_of_lt' hlt
    · rename_i hnot
      refine ih ?_ (by lia)
      by_contra hzero
      obtain rfl : n = 0 := by lia
      exact hnot ⟨Nat.mod_one a, Nat.mod_one b⟩

lemma toNat_greatestCommonDivisor (a b : UInt32) :
    (greatestCommonDivisor a b).toNat = Nat.gcd a.toNat b.toNat := by
  unfold greatestCommonDivisor
  split
  · rename_i hzero
    rcases hzero with rfl | rfl
    · rw [UInt32.toNat_max]
      simp
    · rw [UInt32.toNat_max]
      simp
  · rename_i hpos
    obtain ⟨ha, hb⟩ := not_or.mp hpos
    have ha' : 0 < a.toNat := Nat.pos_of_ne_zero fun h => ha (UInt32.toNat_inj.mp h)
    have hb' : 0 < b.toNat := Nat.pos_of_ne_zero fun h => hb (UInt32.toNat_inj.mp h)
    have hgcd := Nat.gcd_pos_of_pos_left b.toNat ha'
    rw [UInt32.toNat_min, foldl_commonDiv (by lia) (by have := a.toNat_lt; lia),
      Nat.findGreatest_eq_iff]
    refine ⟨?_, fun _ => ?_, fun d hlt hle hd => ?_⟩
    · exact Nat.le_min.mpr ⟨Nat.gcd_le_left _ ha', Nat.gcd_le_right _ hb'⟩
    · exact ⟨Nat.mod_eq_zero_of_dvd (Nat.gcd_dvd_left _ _),
        Nat.mod_eq_zero_of_dvd (Nat.gcd_dvd_right _ _)⟩
    · have hdvd := Nat.dvd_gcd (Nat.dvd_of_mod_eq_zero hd.1) (Nat.dvd_of_mod_eq_zero hd.2)
      exact absurd (Nat.le_of_dvd hgcd hdvd) (by lia)

variable {num den maxNum maxDen : UInt32}

/-- The reduced fraction. -/
def reduced (num den : UInt32) : UInt32 × UInt32 :=
  (num / greatestCommonDivisor num den, den / greatestCommonDivisor num den)

lemma gcd_ne_zero (h : den ≠ 0) : greatestCommonDivisor num den ≠ 0 := by
  intro hzero
  have hgcd := toNat_greatestCommonDivisor num den
  rw [hzero] at hgcd
  exact h (UInt32.toNat_inj.mp (Nat.gcd_eq_zero_iff.mp hgcd.symm).2)

lemma toNat_reduced : (reduced num den).1.toNat = num.toNat / Nat.gcd num.toNat den.toNat ∧
    (reduced num den).2.toNat = den.toNat / Nat.gcd num.toNat den.toNat := by
  simp only [reduced, UInt32.toNat_div, toNat_greatestCommonDivisor, and_self]

lemma reduced_mul : num.toNat * (reduced num den).2.toNat = den.toNat * (reduced num den).1.toNat := by
  obtain ⟨hnum, hden⟩ := @toNat_reduced num den
  rw [hnum, hden, ← Nat.mul_div_assoc _ (Nat.gcd_dvd_right _ _),
    ← Nat.mul_div_assoc _ (Nat.gcd_dvd_left _ _), Nat.mul_comm]

lemma reduced_pos (hnum : num ≠ 0) (hden : den ≠ 0) :
    0 < (reduced num den).1.toNat ∧ 0 < (reduced num den).2.toNat := by
  have hn : 0 < num.toNat := Nat.pos_of_ne_zero fun h => hnum (UInt32.toNat_inj.mp h)
  have hd : 0 < den.toNat := Nat.pos_of_ne_zero fun h => hden (UInt32.toNat_inj.mp h)
  have hgcd := Nat.gcd_pos_of_pos_left den.toNat hn
  rw [toNat_reduced.1, toNat_reduced.2]
  exact ⟨Nat.div_pos (Nat.gcd_le_left _ hn) hgcd, Nat.div_pos (Nat.gcd_le_right _ hd) hgcd⟩

lemma gives_rational {w : ℕ} (h : den ≠ 0) :
    Arith.Gives w (rationalBestApproximation num den maxNum maxDen)
      (if (reduced num den).1 > maxNum ∨ (reduced num den).2 > maxDen then (0, 0)
        else reduced num den) True := by
  have hgcd := @gcd_ne_zero num den h
  unfold reduced rationalBestApproximation
  refine ((Arith.Gives.div hgcd).bind ((Arith.Gives.div hgcd).bind
    (?_ : Arith.Gives w _ _ True))).congr (by simp only [and_self])
  split_ifs
  · exact Arith.Gives.pure
  · exact Arith.Gives.pure

lemma gives_doDiv {w : ℕ} {n base : UInt64} (h : base ≠ 0) :
    Arith.Gives w (doDiv n base) (n / base, n % base) True := by
  refine Arith.Gives.congr (φ := True ∧ True ∧ True) ?_ (by simp only [and_self])
  apply (Arith.Gives.mod64 h).bind
  apply (Arith.Gives.div64 h).bind
  exact Arith.Gives.pure

end NoOS
