import Mathlib.Algebra.Order.Field.Rat
import Mathlib.Algebra.Order.Ring.Abs
import Mathlib.Data.Nat.Bitwise
import Mathlib.Data.Sign.Basic
import Mathlib.Tactic.Linarith
import Mathlib.Tactic.NormNum
import Mathlib.Tactic.Positivity
import NoOS.Lib.Word

/-!
# The calibration coefficients of `axi_dac_core.c`

A coefficient has a sign bit, an integer bit and 14 bits of fraction. It is given in units and
micro units, with the sign in the units or, if they are 0, in the micro units.
-/

namespace NoOS

def axiDacDdsToSignedMagFmt (val val2 : Int32) : UInt32 :=
  let (i, val2) : UInt32 × Int32 :=
    if val = 1 then (0x4000, val2)
    else if val = -1 then (0xC000, val2)
    else if val = 0 then (if val2 < 0 then (0x8000, val2 * -1) else (0, val2))
    else (0, val2)
  let val64 := val2.toInt64.toUInt64 * 0x4000 + 1000000 / 2
  (i.toUInt64 ||| val64 / 1000000).toUInt32

/-- `*r_val` and `*r_val2` -/
def axiDacDdsFromSignedMagFmt (val : UInt32) : Int32 × Int32 :=
  let sign : Int32 := if val &&& 0x8000 ≠ 0 then -1 else 1
  let rVal := if val &&& 0x4000 ≠ 0 then 1 * sign else 0
  let val := val &&& ~~~0xC000
  let val64 := (val.toUInt64 * 1000000 + 0x4000 / 2) / 0x4000
  (rVal, if rVal = 0 then (val64 * sign.toInt64.toUInt64).toUInt32.toInt32 else val64.toUInt32.toInt32)

/-- The coefficient that units and micro units stand for -/
def denoted (val val2 : Int32) : ℚ :=
  if val = 0 then val2.toInt / 1000000 else val.toInt * (1 + val2.toInt / 1000000)

/-- A coefficient between -2 and 2 -/
def IsCoefficient (val val2 : Int32) : Prop :=
  (val = 0 ∧ -1000000 < val2.toInt ∧ val2.toInt < 1000000) ∨
    ((val = 1 ∨ val = -1) ∧ 0 ≤ val2.toInt ∧ val2.toInt < 1000000)

def decoded (val val2 : Int32) : ℚ :=
  let r := axiDacDdsFromSignedMagFmt (axiDacDdsToSignedMagFmt val val2)
  denoted r.1 r.2

/-- The encoded word has 16 bits and stands for the coefficient up to one LSB, with its sign. -/
structure CalibKept (val val2 : Int32) : Prop where
  near : |decoded val val2 - denoted val val2| ≤ 1 / 0x4000
  sign : SignType.sign (decoded val val2) = SignType.sign (denoted val val2)
  fits : (axiDacDdsToSignedMagFmt val val2).toNat < 2 ^ 16

/-- The word with a sign bit, an integer bit and a fraction -/
def calibWord (s b : Bool) (n : ℕ) : UInt32 := UInt32.ofNat ((2 * s.toNat + b.toNat) * 2 ^ 14 + n)

/-- The micro units of a fraction -/
def microOf (n : ℕ) : ℕ := (n * 1000000 + 8192) / 16384

/-- The fraction of micro units, which may reach 1 -/
def fractionOf (a : ℕ) : ℕ := (a * 16384 + 500000) / 1000000

section Words

variable {s b : Bool} {n a : ℕ}

lemma toNat_calibWord (hn : n < 2 ^ 14) :
    (calibWord s b n).toNat = (2 * s.toNat + b.toNat) * 2 ^ 14 + n := by
  have hs := s.toNat_le
  have hb := b.toNat_le
  exact UInt32.toNat_ofNat_of_lt' (by simp only [UInt32.size]; lia)

lemma calibWord_lt (hn : n < 2 ^ 14) : (calibWord s b n).toNat < 2 ^ 16 := by
  have hs := s.toNat_le
  have hb := b.toNat_le
  rw [toNat_calibWord hn]
  lia

lemma testBit_calibWord (hn : n < 2 ^ 14) (i : ℕ) :
    (calibWord s b n).toNat.testBit i =
      if i < 14 then n.testBit i else (2 * s.toNat + b.toNat).testBit (i - 14) := by
  rw [toNat_calibWord hn, Nat.mul_comm, Nat.testBit_two_pow_mul_add _ hn]

lemma and_bit_ne_zero {w : UInt32} (k : ℕ) (hk : k < 32) :
    w &&& UInt32.ofNat (2 ^ k) ≠ 0 ↔ w.toNat.testBit k = true := by
  have hpow : (UInt32.ofNat (2 ^ k)).toNat = 2 ^ k :=
    UInt32.toNat_ofNat_of_lt' (Nat.pow_lt_pow_right (by decide) hk)
  rw [Ne, ← UInt32.toNat_inj, UInt32.toNat_and, hpow, Nat.and_two_pow]
  cases w.toNat.testBit k with
  | false => simp
  | true => simp

lemma calibWord_sign (hn : n < 2 ^ 14) : calibWord s b n &&& 0x8000 ≠ 0 ↔ s = true := by
  rw [show (0x8000 : UInt32) = UInt32.ofNat (2 ^ 15) from rfl, and_bit_ne_zero 15 (by decide),
    testBit_calibWord hn, if_neg (by decide)]
  cases s <;> cases b <;> decide

lemma calibWord_integer (hn : n < 2 ^ 14) : calibWord s b n &&& 0x4000 ≠ 0 ↔ b = true := by
  rw [show (0x4000 : UInt32) = UInt32.ofNat (2 ^ 14) from rfl, and_bit_ne_zero 14 (by decide),
    testBit_calibWord hn, if_neg (by decide)]
  cases s <;> cases b <;> decide

lemma calibWord_fraction (hn : n < 2 ^ 14) : (calibWord s b n &&& ~~~0xC000).toNat = n := by
  have hmask : (calibWord s b n &&& ~~~0xC000).toNat = (calibWord s b n).toNat &&& 0xFFFF3FFF :=
    UInt32.toNat_and ..
  have hlow : (calibWord s b n).toNat &&& 0xFFFF = (calibWord s b n).toNat := by
    rw [show 0xFFFF = 2 ^ 16 - 1 from rfl, Nat.and_two_pow_sub_one_of_lt_two_pow (calibWord_lt hn)]
  rw [hmask, ← hlow, Nat.and_assoc, show 0xFFFF &&& 0xFFFF3FFF = 2 ^ 14 - 1 from rfl,
    Nat.and_two_pow_sub_one_eq_mod, toNat_calibWord hn]
  lia

lemma microOf_lt (hn : n < 2 ^ 14) : microOf n < 1000000 := by
  unfold microOf
  lia

lemma toNat_micro {w : UInt32} (hw : w.toNat < 2 ^ 14) :
    ((w.toUInt64 * 1000000 + 0x4000 / 2) / 0x4000).toNat = microOf w.toNat := by
  have hmul : (w.toUInt64 * 1000000).toNat = w.toNat * 1000000 := by
    rw [Word.toNat_mul64 (by rw [UInt32.toNat_toUInt64]; change _ * 1000000 < _; lia),
      UInt32.toNat_toUInt64]
    rfl
  have hadd : (w.toUInt64 * 1000000 + 0x4000 / 2).toNat = w.toNat * 1000000 + 8192 := by
    rw [Word.toNat_add64 (by rw [hmul]; change _ + 8192 < _; lia), hmul]
    rfl
  rw [UInt64.toNat_div, hadd]
  rfl

lemma toInt_signed {v : UInt64} (hv : v.toNat < 1000000) :
    (v * (if s then (-1 : Int32) else 1).toInt64.toUInt64).toUInt32.toInt32.toInt =
      if s then -(v.toNat : ℤ) else v.toNat := by
  cases s with
  | false =>
    apply Word.toInt32_toInt_of_emod (by lia) (by lia)
    rw [UInt64.toNat_toUInt32, UInt64.toNat_mul]
    change ((v.toNat * 1 % 2 ^ 64 % 2 ^ 32 : ℕ) : ℤ) % 2 ^ 32 = (v.toNat : ℤ) % 2 ^ 32
    lia
  | true =>
    apply Word.toInt32_toInt_of_emod (by lia) (by lia)
    rw [UInt64.toNat_toUInt32, UInt64.toNat_mul]
    change ((v.toNat * 18446744073709551615 % 2 ^ 64 % 2 ^ 32 : ℕ) : ℤ) % 2 ^ 32 =
      -(v.toNat : ℤ) % 2 ^ 32
    lia

lemma denoted_calibWord (hn : n < 2 ^ 14) :
    denoted (axiDacDdsFromSignedMagFmt (calibWord s b n)).1
        (axiDacDdsFromSignedMagFmt (calibWord s b n)).2 =
      (if s then -1 else 1) * ((if b then 1 else 0) + (microOf n : ℚ) / 1000000) := by
  have hfraction := calibWord_fraction (s := s) (b := b) hn
  have hmicro : (((calibWord s b n &&& ~~~0xC000).toUInt64 * 1000000 + 0x4000 / 2) / 0x4000).toNat =
      microOf n := by
    rw [toNat_micro (by rw [hfraction]; exact hn), hfraction]
  have hlt := microOf_lt hn
  rw [← hmicro] at hlt ⊢
  simp only [axiDacDdsFromSignedMagFmt, calibWord_sign hn, calibWord_integer hn]
  generalize ((calibWord s b n &&& ~~~0xC000).toUInt64 * 1000000 + 0x4000 / 2) / 0x4000 = v at hlt ⊢
  cases b with
  | false =>
    have hsigned := toInt_signed (s := s) hlt
    rw [denoted, if_pos (by simp)]
    simp only [Bool.false_eq_true, if_false, if_true, hsigned]
    cases s <;> simp [neg_div]
  | true =>
    have hsigned := toInt_signed (s := false) hlt
    simp only [Bool.false_eq_true, if_false] at hsigned
    have hself : v * (1 : Int32).toInt64.toUInt64 = v := UInt64.mul_one v
    rw [hself] at hsigned
    cases s <;> simp [denoted, hsigned]

lemma fractionOf_le (ha : a < 1000000) : fractionOf a ≤ 2 ^ 14 := by
  unfold fractionOf
  lia

lemma toNat_fraction {x : Int32} (hx : x.toInt = a) (ha : a < 1000000) :
    ((x.toInt64.toUInt64 * 0x4000 + 1000000 / 2) / 1000000).toNat = fractionOf a := by
  have hword : x.toInt64.toUInt64.toNat = a := by
    have hint : x.toInt64.toInt = a := by rw [Int32.toInt_toInt64, hx]
    have hnonneg : 0 ≤ x.toInt64 := by
      rw [Int64.le_iff_toInt_le, hint]
      exact Int.natCast_nonneg a
    have hnat : x.toInt64.toUInt64.toNat = x.toInt64.toNatClampNeg :=
      Int64.toNat_toUInt64_of_le hnonneg
    rw [hnat, Int64.toNatClampNeg, hint, Int.toNat_natCast]
  have hmul : (x.toInt64.toUInt64 * 0x4000).toNat = a * 16384 := by
    rw [Word.toNat_mul64 (by rw [hword]; change _ * 16384 < _; lia), hword]
    rfl
  have hadd : (x.toInt64.toUInt64 * 0x4000 + 1000000 / 2).toNat = a * 16384 + 500000 := by
    rw [Word.toNat_add64 (by rw [hmul]; change _ + 500000 < _; lia), hmul]
    rfl
  rw [UInt64.toNat_div, hadd]
  rfl

lemma or_fraction {q : UInt64} (hq : q.toNat < 2 ^ 14) :
    ((calibWord s b 0).toUInt64 ||| q).toUInt32 = calibWord s b q.toNat := by
  have hlt := calibWord_lt (s := s) (b := b) hq
  have hor : ((calibWord s b 0).toUInt64 ||| q).toNat = (calibWord s b q.toNat).toNat := by
    rw [UInt64.toNat_or, UInt32.toNat_toUInt64, toNat_calibWord (by decide), toNat_calibWord hq,
      Nat.add_zero, ← Nat.shiftLeft_eq, Nat.shiftLeft_add_eq_or_of_lt hq]
  apply UInt32.toNat_inj.mp
  rw [UInt64.toNat_toUInt32, hor]
  exact Nat.mod_eq_of_lt (by lia)

lemma or_one {q : UInt64} (hq : q.toNat = 2 ^ 14) :
    ((calibWord s b 0).toUInt64 ||| q).toUInt32 = calibWord s true 0 := by
  obtain rfl : q = 0x4000 := UInt64.toNat_inj.mp hq
  cases s <;> cases b <;> decide

end Words

/-- Sign, integer bit and micro units of a coefficient, and the parts of its word -/
structure Split (val val2 : Int32) (s b : Bool) (a : ℕ) : Prop where
  lt : a < 1000000
  value : denoted val val2 = (if s then -1 else 1) * ((if b then 1 else 0) + (a : ℚ) / 1000000)
  word : ∃ q : UInt64, q.toNat = fractionOf a ∧
    axiDacDdsToSignedMagFmt val val2 = ((calibWord s b 0).toUInt64 ||| q).toUInt32
  integer : val = 0 ↔ b = false
  micro : val2.toInt.natAbs = a

/-- The micro units of a coefficient with an integer bit are not negative. -/
lemma IsCoefficient.split {val val2 : Int32} (h : IsCoefficient val val2) :
    ∃ s b a, Split val val2 s b a := by
  rcases h with ⟨rfl, hlow, hhigh⟩ | ⟨hval, hlow, hhigh⟩
  · by_cases hneg : val2 < 0
    · have hneg' : val2.toInt < 0 := Int32.lt_iff_toInt_lt.mp hneg
      have habs : val2.toInt = -(val2.toInt.natAbs : ℤ) := by lia
      have hmul : (val2 * -1).toInt = val2.toInt.natAbs := by
        rw [Int32.toInt_mul]
        change (val2.toInt * -1).bmod (2 ^ 32) = _
        rw [Int.bmod_eq_of_le (by lia) (by lia)]
        lia
      refine ⟨true, false, val2.toInt.natAbs, by lia, ?_, ⟨_, toNat_fraction hmul (by lia), ?_⟩,
        by simp, rfl⟩
      · rw [denoted, if_pos rfl, habs]
        simp [neg_div]
      · unfold axiDacDdsToSignedMagFmt
        simp only [hneg, if_true]
        rfl
    · have hnonneg : 0 ≤ val2.toInt := by
        rw [Int32.lt_iff_toInt_lt] at hneg
        exact not_lt.mp hneg
      have habs : val2.toInt = val2.toInt.natAbs := by lia
      refine ⟨false, false, val2.toInt.natAbs, by lia, ?_, ⟨_, toNat_fraction habs (by lia), ?_⟩,
        by simp, rfl⟩
      · rw [denoted, if_pos rfl, habs]
        simp
      · unfold axiDacDdsToSignedMagFmt
        simp only [hneg, if_false]
        rfl
  · have habs : val2.toInt = val2.toInt.natAbs := by lia
    rcases hval with rfl | rfl
    · refine ⟨false, true, val2.toInt.natAbs, by lia, ?_,
        ⟨_, toNat_fraction habs (by lia), rfl⟩, by decide, rfl⟩
      rw [denoted, if_neg (by decide), habs]
      simp
    · refine ⟨true, true, val2.toInt.natAbs, by lia, ?_,
        ⟨_, toNat_fraction habs (by omega), rfl⟩, by decide, rfl⟩
      rw [denoted, if_neg (by decide), habs]
      simp

section Kept

variable {val val2 : Int32} {s b : Bool} {a : ℕ}

lemma Split.decoded_of_lt (h : Split val val2 s b a) (hn : fractionOf a < 2 ^ 14) :
    axiDacDdsToSignedMagFmt val val2 = calibWord s b (fractionOf a) ∧ decoded val val2 =
      (if s then -1 else 1) * ((if b then 1 else 0) + (microOf (fractionOf a) : ℚ) / 1000000) := by
  obtain ⟨q, hq, hword⟩ := h.word
  rw [or_fraction (by rw [hq]; exact hn), hq] at hword
  refine ⟨hword, ?_⟩
  rw [decoded, hword]
  exact denoted_calibWord hn

lemma Split.decoded_of_eq (h : Split val val2 s b a) (hn : fractionOf a = 2 ^ 14) :
    axiDacDdsToSignedMagFmt val val2 = calibWord s true 0 ∧
      decoded val val2 = if s then -1 else 1 := by
  obtain ⟨q, hq, hword⟩ := h.word
  rw [or_one (hq.trans hn)] at hword
  refine ⟨hword, ?_⟩
  rw [decoded, hword]
  rw [denoted_calibWord (by decide)]
  simp [microOf]

lemma micro_near (a : ℕ) : microOf (fractionOf a) ≤ a + 31 ∧
    a ≤ microOf (fractionOf a) + 31 ∧ (microOf (fractionOf a) = 0 ↔ a ≤ 30) := by
  unfold microOf fractionOf
  lia

lemma fraction_lt_iff (ha : a < 1000000) : fractionOf a < 2 ^ 14 ↔ a < 999970 := by
  unfold fractionOf
  omega

lemma sign_signed (x : ℚ) :
    SignType.sign ((if s then -1 else 1) * x) = (if s then -1 else 1) * SignType.sign x := by
  cases s with
  | false => simp
  | true => simp [Left.sign_neg]

lemma sign_signed_eq_iff {x y : ℚ} (hx : 0 ≤ x) (hy : 0 ≤ y) :
    SignType.sign ((if s then -1 else 1) * x) = SignType.sign ((if s then -1 else 1) * y) ↔
      (x = 0 ↔ y = 0) := by
  rw [sign_signed, sign_signed]
  rcases hx.eq_or_lt with rfl | hx'
  · rcases hy.eq_or_lt with rfl | hy'
    · simp
    · cases s <;> simp [sign_pos hy', hy'.ne']
  · rcases hy.eq_or_lt with rfl | hy'
    · cases s <;> simp [sign_pos hx', hx'.ne']
    · simp [sign_pos hx', sign_pos hy', hx'.ne', hy'.ne']

lemma abs_signed (x y : ℚ) :
    |(if s then -1 else 1) * x - (if s then -1 else 1) * y| = |x - y| := by
  cases s with
  | false => simp
  | true =>
    rw [if_pos rfl, ← mul_sub, abs_mul]
    simp

lemma Split.kept_iff (h : Split val val2 s b a) :
    CalibKept val val2 ↔ if b then a < 999970 else a = 0 ∨ 31 ≤ a := by
  have hlt := h.lt
  have hmicro : (0 : ℚ) ≤ (microOf (fractionOf a) : ℚ) / 1000000 := by positivity
  have hgiven : (0 : ℚ) ≤ (a : ℚ) / 1000000 := by positivity
  by_cases hn : a < 999970
  · obtain ⟨hword, hdecoded⟩ := h.decoded_of_lt ((fraction_lt_iff hlt).mpr hn)
    obtain ⟨hup, hdown, hzero⟩ := micro_near a
    have hnear : |decoded val val2 - denoted val val2| ≤ 1 / 0x4000 := by
      have hup' : (microOf (fractionOf a) : ℚ) ≤ a + 31 := by exact_mod_cast hup
      have hdown' : (a : ℚ) ≤ microOf (fractionOf a) + 31 := by exact_mod_cast hdown
      rw [hdecoded, h.value, abs_signed, abs_le]
      constructor
      · norm_num
        linarith
      · norm_num
        linarith
    have hfits : (axiDacDdsToSignedMagFmt val val2).toNat < 2 ^ 16 := by
      rw [hword]
      exact calibWord_lt ((fraction_lt_iff hlt).mpr hn)
    have hsign : SignType.sign (decoded val val2) = SignType.sign (denoted val val2) ↔
        b = true ∨ a = 0 ∨ 31 ≤ a := by
      rw [hdecoded, h.value, sign_signed_eq_iff (by positivity) (by positivity)]
      cases b with
      | false =>
        simp only [Bool.false_eq_true, if_false, zero_add, false_or, div_eq_zero_iff, Nat.cast_eq_zero,
          hzero]
        norm_num
        lia
      | true =>
        have hone : (1 : ℚ) + (microOf (fractionOf a) : ℚ) / 1000000 ≠ 0 := by positivity
        have hone' : (1 : ℚ) + (a : ℚ) / 1000000 ≠ 0 := by positivity
        simp [hone, hone']
    have hkept : CalibKept val val2 ↔ b = true ∨ a = 0 ∨ 31 ≤ a :=
      ⟨fun hk => hsign.mp hk.sign, fun hk => ⟨hnear, hsign.mpr hk, hfits⟩⟩
    rw [hkept]
    cases b with
    | false => simp
    | true => simpa using hn
  · have hfull : fractionOf a = 2 ^ 14 := by
      have hle := fractionOf_le hlt
      have hnot := mt (fraction_lt_iff hlt).mp hn
      lia
    obtain ⟨hword, hdecoded⟩ := h.decoded_of_eq hfull
    have hone : decoded val val2 = (if s then -1 else 1) * (1 : ℚ) := by rw [hdecoded, mul_one]
    have hlow : (999970 : ℚ) ≤ a := by exact_mod_cast not_lt.mp hn
    have hhigh : (a : ℚ) < 1000000 := by exact_mod_cast hlt
    cases b with
    | false =>
      rw [if_neg Bool.false_ne_true]
      refine iff_of_true ⟨?_, ?_, ?_⟩ (Or.inr (by lia))
      · rw [hone, h.value, abs_signed, abs_le]
        constructor
        · norm_num
          linarith
        · norm_num
          linarith
      · rw [hone, h.value, sign_signed_eq_iff (by positivity) (by positivity)]
        have hpos : 0 < (a : ℚ) / 1000000 := div_pos (by linarith) (by norm_num)
        simp [hpos.ne']
      · rw [hword]
        exact calibWord_lt (by decide)
    | true =>
      rw [if_pos rfl]
      refine iff_of_false (fun hk => ?_) hn
      have hnear := hk.near
      rw [hone, h.value, abs_signed, abs_le] at hnear
      norm_num at hnear
      linarith

end Kept

/-- A coefficient is kept if and only if it is less than 1 and not so small that it is rounded to 0,
or its micro units are not rounded up to a whole unit. -/
theorem calib_kept_iff (val val2 : Int32) (h : IsCoefficient val val2) :
    CalibKept val val2 ↔ (val = 0 ∧ (val2 = 0 ∨ 31 ≤ val2.toInt.natAbs)) ∨
      (val ≠ 0 ∧ val2.toInt.natAbs < 999970) := by
  obtain ⟨s, b, a, hsplit⟩ := h.split
  have hzero : val2 = 0 ↔ val2.toInt.natAbs = 0 := by
    rw [Int.natAbs_eq_zero, ← Int32.toInt_inj]
    rfl
  rw [hsplit.kept_iff, hzero, hsplit.micro, Ne, hsplit.integer]
  cases b with
  | false => simp
  | true => simp

theorem calib_kept_half : CalibKept (-1) 500000 :=
  (calib_kept_iff (-1) 500000 (by unfold IsCoefficient; decide)).mpr (by decide)

/-- 1.99997 is encoded as 1. -/
theorem calib_not_kept : axiDacDdsToSignedMagFmt 1 999970 = 0x4000 ∧
    axiDacDdsFromSignedMagFmt 0x4000 = (1, 0) ∧ IsCoefficient 1 999970 ∧ ¬CalibKept 1 999970 := by
  refine ⟨by decide, by decide, by unfold IsCoefficient; decide, fun h => ?_⟩
  have hnear := h.near
  have hword : axiDacDdsToSignedMagFmt 1 999970 = 0x4000 := by decide
  have hread : axiDacDdsFromSignedMagFmt 0x4000 = (1, 0) := by decide
  rw [decoded, hword, hread, denoted, denoted, if_neg (by decide), if_neg (by decide)] at hnear
  change |(1 : ℤ) * (1 + ((0 : ℤ) : ℚ) / 1000000) - (1 : ℤ) * (1 + ((999970 : ℤ) : ℚ) / 1000000)| ≤ _ at hnear
  norm_num at hnear

end NoOS
